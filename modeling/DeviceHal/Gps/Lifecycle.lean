import DeviceHal.Core.Machine

/-!
# From the first call of the HAL to the last

`mtk_gps_init` waits until the GPS thread is ready, and `mtk_gps_cleanup` until the session has stopped, the GPS thread
has ended and the EPO thread has ended.  Each waits for a flag of `lock_for_sync`, which a thread sets and the waiter
clears, and no wait has a timeout.

**The defect.**  When `gps_state_init` fails nobody is left to set a flag: without the device it returns and
`mtk_gps_init` waits for a thread that was not created, and on its other failures `gps_state_done` waits for the end of
one.  A thread that cannot listen on its socket ends without a flag.  `mtk_gps_cleanup` waits for an EPO thread where
there was none, and for the end of a session where the GPS thread, which would report it, has ended by an error.

* `Lifecycle.step` — one caller and the two threads, interleaved.
* `Answered` — the calls that come back.
* **`call_returns_iff`** — a call that is `Answered` can return, any other call never does.
-/

namespace Hal

/-- Where the caller is: in no call, in a wait, or in `mtk_gps_epo_interface_init` behind `pthread_create`. -/
inductive HalCaller where
  | idle
  | initWaits
  /-- In `gps_state_done`, below `Fail`. -/
  | failWaits
  | stopWaits
  | doneWaits
  | exitWaits
  | epoStarts
deriving DecidableEq

/-- The GPS thread: there is none, it is on its way to release `M_INIT`, or it is in its loop.  The `Bool` says whether
its socket for the codec can be made. -/
inductive GpsThread where
  | none
  | created (listens : Bool)
  | ready
deriving DecidableEq

/-- How `mtk_gps_init` goes, if it is not initialised already; `fails` is for every `goto Fail`. -/
inductive InitOutcome where
  | badCallbacks
  | noDevice
  | fails
  | threadCreated (listens : Bool)

structure Lifecycle where
  caller : HalCaller
  init : Bool
  startFlag : Bool
  mInit : Bool
  mStop : Bool
  mCleanup : Bool
  mThreadExit : Bool
  gps : GpsThread
  /-- `CMD_QUIT` was written to the thread's socket. -/
  quit : Bool
  epo : ℕ
  threadEpoExitFlag : Bool

/-- The calls, of which `sessionStarts` is the end of `mtk_gps_start`, and the steps of the caller and the threads. -/
inductive LifecycleAct where
  | gpsInit (outcome : InitOutcome)
  | epoInterfaceInit (created : Bool)
  | sessionStarts
  | gpsCleanup
  | callerSteps
  | gpsReady
  | mnlDies
  /-- On `CMD_QUIT`, or on `EPOLLERR` or `EPOLLHUP`. -/
  | gpsExits (hup : Bool)
  | epoExits

namespace Lifecycle

def start : Lifecycle := ⟨.idle, false, false, false, false, false, false, .none, false, 0, false⟩

/-- `mtk_gps_init`, up to its wait. -/
def gpsInit (s : Lifecycle) (outcome : InitOutcome) : Lifecycle :=
  if s.init then s
  else match outcome with
    | .badCallbacks => s
    | .noDevice => { s with quit := false, caller := .initWaits }
    | .fails => { s with quit := true, caller := .failWaits }
    | .threadCreated listens => { s with quit := false, gps := .created listens, caller := .initWaits }

/-- `mtk_gps_cleanup` behind its first wait, up to the next. -/
def stopped (s : Lifecycle) : Lifecycle :=
  if s.init then { s with mStop := false, quit := true, caller := .doneWaits }
  else { s with mStop := false, threadEpoExitFlag := true, caller := .exitWaits }

/-- A wait that finds its flag set clears it, and the call goes on. -/
def callerStep (s : Lifecycle) : Lifecycle :=
  match s.caller with
  | .idle => s
  | .initWaits => if s.mInit then { s with mInit := false, init := true, caller := .idle } else s
  | .failWaits => if s.mCleanup then { s with mCleanup := false, init := false, caller := .initWaits } else s
  | .stopWaits => if s.mStop then s.stopped else s
  | .doneWaits =>
    if s.mCleanup then { s with mCleanup := false, init := false, threadEpoExitFlag := true, caller := .exitWaits }
    else s
  | .exitWaits => if s.mThreadExit then { s with mThreadExit := false, caller := .idle } else s
  | .epoStarts => { s with threadEpoExitFlag := false, caller := .idle }

def gpsReady (s : Lifecycle) : Option Lifecycle :=
  match s.gps with
  | .created true => some { s with gps := .ready, mInit := true }
  | .created false => some { s with gps := .none }
  | _ => none

def step (s : Lifecycle) : LifecycleAct → Option Lifecycle
  | .gpsInit outcome => if s.caller = .idle then some (s.gpsInit outcome) else none
  | .epoInterfaceInit created =>
    if s.caller = .idle then some (if created then { s with epo := s.epo + 1, caller := .epoStarts } else s) else none
  | .sessionStarts =>
    if s.caller = .idle ∧ s.init = true then some { s with mStop := false, startFlag := true } else none
  | .gpsCleanup =>
    if s.caller = .idle then some (if s.startFlag then { s with caller := .stopWaits } else s.stopped) else none
  | .callerSteps => some s.callerStep
  | .gpsReady => s.gpsReady
  | .mnlDies => if s.gps = .ready then some { s with mStop := true, startFlag := false } else none
  | .gpsExits hup =>
    if s.gps = .ready ∧ (s.quit = true ∨ hup = true) then some { s with gps := .none, mCleanup := true } else none
  | .epoExits =>
    if 0 < s.epo ∧ s.threadEpoExitFlag = true then some { s with epo := s.epo - 1, mThreadExit := true } else none

/-- There is an EPO thread, or one has ended that no cleanup has waited for. -/
def HasEpo (s : Lifecycle) : Prop := 0 < s.epo ∨ s.mThreadExit = true

def Answered (s : Lifecycle) : LifecycleAct → Prop
  | .gpsInit outcome => s.init = true ∨ outcome = .badCallbacks ∨ outcome = .threadCreated true
  | .gpsCleanup => (s.startFlag = true → s.gps = .ready) ∧ s.HasEpo
  | _ => True

def Inner : LifecycleAct → Prop
  | .gpsInit _ | .epoInterfaceInit _ | .sessionStarts | .gpsCleanup => False
  | _ => True

def CanReturn (s : Lifecycle) : Prop :=
  ∃ acts, (∀ a ∈ acts, Inner a) ∧ ∃ u, run step s acts = some u ∧ u.caller = .idle

/-! ## What holds in every run -/

structure Inv (s : Lifecycle) : Prop where
  mInit : s.mInit = true → s.caller = .initWaits ∧ (s.gps = .ready ∨ s.mCleanup = true)
  created : ∀ listens, s.gps = .created listens → s.caller = .initWaits ∧ s.mInit = false
  mCleanup : s.mCleanup = true → s.gps = .none
  running : s.init = true → s.caller ≠ .initWaits ∧ (s.gps = .ready ∨ s.mCleanup = true)
  notRunning : s.init = false → s.caller ≠ .initWaits → s.gps = .none ∧ s.mCleanup = false
  initWaits : s.caller = .initWaits → s.mInit = true ∨ s.gps ≠ .ready ∧ s.mCleanup = false
  startFlag : s.startFlag = true → s.init = true ∧ s.mStop = false ∧ s.caller ≠ .doneWaits
  stopWaits : s.caller = .stopWaits → s.init = true ∧ (s.startFlag = true ∨ s.mStop = true)
  doneWaits : s.caller = .doneWaits → s.init = true ∧ s.quit = true
  quit : s.quit = true → s.caller = .doneWaits ∨ s.init = false ∧ s.caller ≠ .initWaits
  exitWaits : s.caller = .exitWaits → s.init = false ∧ s.threadEpoExitFlag = true
  failWaits : s.caller = .failWaits → s.init = false

variable {s s' u : Lifecycle} {a : LifecycleAct} {acts : List LifecycleAct}

lemma inv_start : start.Inv := by constructor <;> simp [start]

/-- Only an `mtk_gps_init` that waits has a thread on its way to `M_INIT`, or the flag set. -/
lemma Inv.not_created (h : s.Inv) (hcaller : s.caller ≠ .initWaits) :
    s.mInit = false ∧ ∀ listens, s.gps ≠ .created listens :=
  ⟨eq_false_of_ne_true fun hset => hcaller (h.mInit hset).1, fun listens hgps => hcaller (h.created listens hgps).1⟩

lemma Inv.gpsInit (h : s.Inv) (hidle : s.caller = .idle) (outcome : InitOutcome) : (s.gpsInit outcome).Inv := by
  cases hinit : s.init with
  | true => simpa [Lifecycle.gpsInit, hinit] using h
  | false =>
    obtain ⟨hno, -⟩ := h.not_created (by simp [hidle])
    obtain ⟨hgps, hclean⟩ := h.notRunning hinit (by simp [hidle])
    have hflag : s.startFlag = false := eq_false_of_ne_true fun hset => by simpa [hinit] using (h.startFlag hset).1
    cases outcome with
    | badCallbacks => simpa [Lifecycle.gpsInit, hinit] using h
    | noDevice | fails | threadCreated listens =>
      constructor <;> simp [Lifecycle.gpsInit, hinit, hno, hgps, hclean, hflag]

lemma Inv.stopped (h : s.Inv) (hcaller : s.caller = .idle ∨ s.caller = .stopWaits) (hflag : s.startFlag = false) :
    s.stopped.Inv := by
  have hcall : s.caller ≠ .initWaits := by rcases hcaller with hcaller | hcaller <;> simp [hcaller]
  obtain ⟨hno, hcreated⟩ := h.not_created hcall
  have hclean := h.mCleanup
  cases hinit : s.init with
  | true =>
    obtain ⟨-, hrunning⟩ := h.running hinit
    constructor <;> simp_all [Lifecycle.stopped]
  | false =>
    obtain ⟨hgps, hclean⟩ := h.notRunning hinit hcall
    constructor <;> simp_all [Lifecycle.stopped]

/-- Where neither the GPS thread nor a flag of its is concerned, the caller goes on as it likes. -/
lemma Inv.between (h : s.Inv) (hcaller : s.caller = .idle ∨ s.caller = .exitWaits ∨ s.caller = .epoStarts)
    {caller : HalCaller} (hnext : caller = .idle ∨ caller = .epoStarts) (epo : ℕ) (exited flag : Bool) :
    Inv { s with caller := caller, epo := epo, mThreadExit := exited, threadEpoExitFlag := flag } := by
  have hcall : s.caller ≠ .initWaits := by rcases hcaller with hcaller | hcaller | hcaller <;> simp [hcaller]
  obtain ⟨hno, hcreated⟩ := h.not_created hcall
  have hquit (hset : s.quit = true) : s.init = false := by
    rcases h.quit hset with hdone | hoff
    · simp [hdone] at hcaller
    · exact hoff.1
  constructor <;> rcases hnext with rfl | rfl
  all_goals simp_all [h.mCleanup, h.running, h.startFlag, h.notRunning]

lemma Inv.callerStep (h : s.Inv) : s.callerStep.Inv := by
  unfold Lifecycle.callerStep
  cases hcaller : s.caller with
  | idle => exact h
  | initWaits =>
    dsimp only
    split_ifs with hset
    · have hthread := (h.mInit hset).2
      have hclean := h.mCleanup
      have hcreated (listens : Bool) (hgps : s.gps = .created listens) := hset.symm.trans (h.created listens hgps).2
      have hinit : s.init = false := eq_false_of_ne_true fun hrunning => (h.running hrunning).1 hcaller
      have hflag : s.startFlag = false := eq_false_of_ne_true fun hset => by simpa [hinit] using (h.startFlag hset).1
      have hquit : s.quit = false := eq_false_of_ne_true fun hset => by simpa [hcaller] using h.quit hset
      constructor <;> simp_all
    · exact h
  | failWaits =>
    -- the thread of an earlier session would have had to end without a cleanup
    obtain ⟨-, hclean⟩ := h.notRunning (h.failWaits hcaller) (by simp [hcaller])
    simpa [hclean] using h
  | stopWaits =>
    dsimp only
    split_ifs with hset
    · exact h.stopped (.inr hcaller) (eq_false_of_ne_true fun hflag => by simpa [hset] using (h.startFlag hflag).2.1)
    · exact h
  | doneWaits =>
    dsimp only
    split_ifs with hset
    · obtain ⟨hno, -⟩ := h.not_created (by simp [hcaller])
      have hgps := h.mCleanup hset
      have hflag : s.startFlag = false := eq_false_of_ne_true fun hflag => (h.startFlag hflag).2.2 hcaller
      constructor <;> simp_all
    · exact h
  | exitWaits =>
    dsimp only
    split_ifs with hset
    · exact h.between (by simp [hcaller]) (.inl rfl) _ _ _
    · exact h
  | epoStarts => exact h.between (by simp [hcaller]) (.inl rfl) _ _ _

lemma Inv.step (h : s.Inv) (hstep : s.step a = some s') : s'.Inv := by
  cases a with
  | callerSteps =>
    cases hstep
    exact h.callerStep
  | gpsReady =>
    constructor <;> grind -linarith [Lifecycle.step, Lifecycle.gpsReady, h.created, h.mCleanup, h.running, h.startFlag,
      h.quit]
  | gpsInit outcome =>
    obtain ⟨hidle, rfl⟩ := Option.ite_some_none_eq_some.mp hstep
    exact h.gpsInit hidle outcome
  | epoInterfaceInit created =>
    obtain ⟨hidle, rfl⟩ := Option.ite_some_none_eq_some.mp hstep
    split
    · exact h.between (.inl hidle) (.inr rfl) _ _ _
    · exact h
  | sessionStarts =>
    obtain ⟨⟨hidle, hinit⟩, rfl⟩ := Option.ite_some_none_eq_some.mp hstep
    exact { h with startFlag := by simp [hidle, hinit], stopWaits := by simp [hidle] }
  | gpsCleanup =>
    obtain ⟨hidle, rfl⟩ := Option.ite_some_none_eq_some.mp hstep
    split
    next hflag =>
      obtain ⟨hinit, hstop, -⟩ := h.startFlag hflag
      obtain ⟨hno, hcreated⟩ := h.not_created (by simp [hidle])
      have hquit := h.quit
      have hclean := h.mCleanup
      obtain ⟨-, hrunning⟩ := h.running hinit
      constructor <;> simp_all
    next hflag => exact h.stopped (.inl hidle) (eq_false_of_ne_true hflag)
  | mnlDies =>
    obtain ⟨-, rfl⟩ := Option.ite_some_none_eq_some.mp hstep
    exact { h with startFlag := by simp, stopWaits := fun hcaller => ⟨(h.stopWaits hcaller).1, .inr rfl⟩ }
  | gpsExits hup =>
    obtain ⟨⟨hgps, -⟩, rfl⟩ := Option.ite_some_none_eq_some.mp hstep
    exact { h with
      mInit := fun hset => ⟨(h.mInit hset).1, .inr rfl⟩
      created := nofun
      mCleanup := fun _ => rfl
      running := fun hinit => ⟨(h.running hinit).1, .inr rfl⟩
      notRunning := fun hinit hcaller => by simpa [hgps] using h.notRunning hinit hcaller
      initWaits := fun hcaller => .inl ((h.initWaits hcaller).resolve_right (by simp [hgps])) }
  | epoExits =>
    obtain ⟨-, rfl⟩ := Option.ite_some_none_eq_some.mp hstep
    exact { h with }

/-! ## Calls that never return -/

/-- Nobody is left who could set the flag of the wait, or one that the same call waits for later. -/
def Stuck (s : Lifecycle) : Prop :=
  s.caller = .initWaits ∧ s.mInit = false ∧ (s.gps = .none ∨ s.gps = .created false) ∨
  s.caller = .failWaits ∧ s.mCleanup = false ∧ s.gps = .none ∨
  s.caller = .stopWaits ∧ s.mStop = false ∧ s.gps = .none ∨
  (s.caller = .stopWaits ∨ s.caller = .doneWaits ∨ s.caller = .exitWaits) ∧ ¬s.HasEpo

lemma Stuck.step (h : s.Stuck) (hinner : Inner a) (hstep : s.step a = some s') : s'.Stuck := by
  cases a with
  | gpsInit _ | epoInterfaceInit _ | sessionStarts | gpsCleanup => exact hinner.elim
  | callerSteps =>
    simp only [Lifecycle.step, Option.some.injEq] at hstep
    subst hstep
    cases hcaller : s.caller <;> simp only [Lifecycle.callerStep, Lifecycle.stopped, hcaller] <;>
      grind -linarith [Stuck, HasEpo]
  | gpsReady | mnlDies | gpsExits hup | epoExits => grind -linarith [Lifecycle.step, Lifecycle.gpsReady, Stuck, HasEpo]

lemma Stuck.caller_ne_idle (h : s.Stuck) : s.caller ≠ .idle := by grind -linarith [Stuck]

/-- Without an error, no step gets a call stuck. -/
lemma not_stuck_step (hinv : s.Inv) (h : ¬s.Stuck) (hinner : Inner a) (hhup : a ≠ .gpsExits true)
    (hstep : s.step a = some s') : ¬s'.Stuck := by
  cases a with
  | gpsInit _ | epoInterfaceInit _ | sessionStarts | gpsCleanup => exact hinner.elim
  | callerSteps =>
    simp only [step, Option.some.injEq] at hstep
    subst hstep
    cases hcaller : s.caller <;> simp only [callerStep, stopped, hcaller] <;>
      grind -linarith [Stuck, HasEpo, hinv.failWaits, hinv.notRunning, hinv.mCleanup]
  | gpsReady => grind -linarith [step, gpsReady, Stuck, HasEpo, hinv.created]
  | gpsExits hup => grind -linarith [step, Stuck, HasEpo, hinv.quit, hinv.initWaits, hinv.stopWaits]
  | mnlDies | epoExits => grind -linarith [step, Stuck, HasEpo]

lemma stuck_iff_not_answered (hinv : s.Inv) (hidle : s.caller = .idle) (hstep : s.step a = some s') :
    s'.Stuck ↔ ¬s.Answered a := by
  cases a with
  | gpsInit outcome =>
    obtain ⟨hno, -⟩ := hinv.not_created (by simp [hidle])
    rcases outcome with _ | _ | _ | (_ | _) <;> grind -linarith [step, gpsInit, Stuck, Answered, hinv.notRunning]
  | gpsCleanup =>
    grind -linarith [step, stopped, Stuck, Answered, HasEpo, hinv.startFlag, hinv.running, hinv.mCleanup]
  | callerSteps =>
    simp only [step, callerStep, hidle, Option.some.injEq] at hstep
    grind -linarith [Stuck, Answered]
  | epoInterfaceInit _ | sessionStarts | gpsReady | mnlDies | gpsExits _ | epoExits =>
    grind -linarith [step, gpsReady, Stuck, Answered, hinv.created]

/-! ## Calls that return -/

/-- The waits that are left, each with the step that sets its flag if that is not set. -/
def rank (s : Lifecycle) : ℕ :=
  match s.caller with
  | .idle | .failWaits => 0
  | .epoStarts => 1
  | .initWaits => if s.mInit then 1 else 2
  | .exitWaits => if s.mThreadExit then 1 else 2
  | .doneWaits => if s.mCleanup then 3 else 4
  | .stopWaits => if s.mStop then 5 else 6

/-- A wait ends if its flag is set, and otherwise there is a thread that can set it. -/
lemma exists_progress (hinv : s.Inv) (h : ¬s.Stuck) (hbusy : s.caller ≠ .idle) :
    ∃ a s', (Inner a ∧ a ≠ .gpsExits true) ∧ s.step a = some s' ∧ s'.rank < s.rank := by
  simp only [Stuck, not_or, not_and, not_not] at h
  obtain ⟨hinit, hfail, hstop, hepo⟩ := h
  have hwait (hlt : s.callerStep.rank < s.rank) :
      ∃ a s', (Inner a ∧ a ≠ .gpsExits true) ∧ s.step a = some s' ∧ s'.rank < s.rank :=
    ⟨.callerSteps, s.callerStep, ⟨trivial, nofun⟩, rfl, hlt⟩
  cases hcaller : s.caller with
  | idle => exact absurd hcaller hbusy
  | epoStarts => exact hwait (by simp [callerStep, rank, hcaller])
  | failWaits =>
    obtain ⟨hnone, hflag⟩ := hinv.notRunning (hinv.failWaits hcaller) (by simp [hcaller])
    exact absurd hnone (hfail hcaller hflag)
  | initWaits =>
    cases hflag : s.mInit with
    | true => exact hwait (by simp [callerStep, rank, hcaller, hflag])
    | false =>
      have hcreated : s.gps = .created true := by
        have hloop := hinv.initWaits hcaller
        rcases hgps : s.gps with _ | (_ | _) | _ <;> simp_all
      exact ⟨.gpsReady, { s with gps := .ready, mInit := true }, ⟨trivial, nofun⟩, by simp [step, gpsReady, hcreated],
        by simp [rank, hcaller, hflag]⟩
  | stopWaits =>
    obtain ⟨hrunning, -⟩ := hinv.stopWaits hcaller
    cases hflag : s.mStop with
    | true => exact hwait (by grind -linarith [callerStep, stopped, rank])
    | false =>
      have hready : s.gps = .ready :=
        (hinv.running hrunning).2.resolve_right fun hclean => hstop hcaller hflag (hinv.mCleanup hclean)
      exact ⟨.mnlDies, { s with mStop := true, startFlag := false }, ⟨trivial, nofun⟩, by simp [step, hready],
        by simp [rank, hcaller, hflag]⟩
  | doneWaits =>
    obtain ⟨hrunning, hquit⟩ := hinv.doneWaits hcaller
    cases hflag : s.mCleanup with
    | true => exact hwait (by grind -linarith [callerStep, rank])
    | false =>
      have hready : s.gps = .ready := (hinv.running hrunning).2.resolve_right (by simp [hflag])
      exact ⟨.gpsExits false, { s with gps := .none, mCleanup := true }, ⟨trivial, nofun⟩,
        by simp [step, hready, hquit], by simp [rank, hcaller, hflag]⟩
  | exitWaits =>
    cases hflag : s.mThreadExit with
    | true => exact hwait (by simp [callerStep, rank, hcaller, hflag])
    | false =>
      have hthread : 0 < s.epo := (hepo (.inr (.inr hcaller))).resolve_right (by simp [hflag])
      exact ⟨.epoExits, { s with epo := s.epo - 1, mThreadExit := true }, ⟨trivial, nofun⟩,
        by simp [step, hthread, (hinv.exitWaits hcaller).2], by simp [rank, hcaller, hflag]⟩

lemma canReturn_of_not_stuck (hinv : s.Inv) (h : ¬s.Stuck) : s.CanReturn := by
  -- by the waits that are left
  induction hrank : s.rank using Nat.strongRecOn generalizing s with
  | ind n ih =>
    by_cases hidle : s.caller = .idle
    · exact ⟨[], by simp, s, rfl, hidle⟩
    obtain ⟨a, s', ⟨hinner, hhup⟩, hstep, hlt⟩ := exists_progress hinv h hidle
    obtain ⟨acts, hacts, u, hrun, hreturned⟩ :=
      ih s'.rank (hrank ▸ hlt) (hinv.step hstep) (not_stuck_step hinv h hinner hhup hstep) rfl
    refine ⟨a :: acts, ?_, u, run_cons_eq_some.mpr ⟨s', hstep, hrun⟩, hreturned⟩
    rintro b (_ | ⟨_, hb⟩)
    · exact hinner
    · exact hacts b hb

/-- **A call returns iff it is answered.**  After every run, and whatever the threads have done since, a call of
the HAL that is `Answered` can still return, unless `epoll_wait` reported an error; a call that is not answered never
returns, whatever the threads do. -/
theorem call_returns_iff (hrun : run step start acts = some s) (hidle : s.caller = .idle) (hcall : s.step a = some s') :
    (s.Answered a → ∀ since, (∀ b ∈ since, Inner b ∧ b ≠ .gpsExits true) →
      ∀ u, run step s' since = some u → u.CanReturn) ∧
    (¬s.Answered a → ∀ since, (∀ b ∈ since, Inner b) → ∀ u, run step s' since = some u → u.caller ≠ .idle) := by
  have hinv : s.Inv := run_invariant (I := Inv) (fun _ _ _ h hs => h.step hs) inv_start hrun
  have hiff := stuck_iff_not_answered hinv hidle hcall
  constructor
  · intro hanswered since hsince u hu
    have hnot : ¬s'.Stuck := fun hstuck => hiff.mp hstuck hanswered
    have halong := along_of_stepsMeet (I := fun s => s.Inv ∧ ¬s.Stuck) (P := fun s => s.Inv ∧ ¬s.Stuck)
      (fun _ _ _ h hb hs => ⟨h.1.step hs, not_stuck_step h.1 h.2 hb.1 hb.2 hs⟩) (fun _ h => h) ⟨hinv.step hcall, hnot⟩
      (stepsMeet_of_forall hsince)
    exact canReturn_of_not_stuck (halong.last hu).1 (halong.last hu).2
  · intro hanswered since hsince u hu
    have halong := along_of_stepsMeet (I := Stuck) (P := Stuck) (C := fun _ => Inner)
      (fun _ _ _ h hb hs => h.step hb hs) (fun _ h => h) (hiff.mpr hanswered) (stepsMeet_of_forall hsince)
    exact (halong.last hu).caller_ne_idle

def withoutEpo : List LifecycleAct := [.gpsInit (.threadCreated true), .gpsReady, .callerSteps]

theorem call_returns_iff_withoutEpo :
    ∃ s s', run step start withoutEpo = some s ∧ s.caller = .idle ∧ s.step .gpsCleanup = some s' ∧
      ∀ since, (∀ b ∈ since, Inner b) → ∀ u, run step s' since = some u → u.caller ≠ .idle := by
  obtain ⟨s, s', hrun, hidle, hcall, hepo⟩ : ∃ s s', run step start withoutEpo = some s ∧ s.caller = .idle ∧
      s.step .gpsCleanup = some s' ∧ s.epo = 0 ∧ s.mThreadExit = false := ⟨_, _, rfl, rfl, rfl, rfl, rfl⟩
  exact ⟨s, s', hrun, hidle, hcall, (call_returns_iff hrun hidle hcall).2 (by simp [Answered, HasEpo, hepo])⟩

end Lifecycle

end Hal
