import Mathlib.Data.Finset.Insert
import Mathlib.Data.Finset.Erase
import DeviceHal.Core.Machine

/-!
# The sensor listener of the camera

`SensorListenerImp` gives the camera the events of the motion sensors.  Its users share one event queue, on
which each sensor type is enabled or not, and one thread that polls the queue.  A single counter,
`mSensorEnableCnt`, decides when the thread starts and ends: it counts the calls, over all types.

* `run_listener` — no sequence of calls gets to a thread or a queue that is not there.
* `Move` — the four things a call can do to the queue and the thread, and when each is regular.
* **`listener_ok_iff`** — the thread runs exactly while a type is enabled, and is the only one, all along a
  sequence of calls iff every call of it is regular.
-/

namespace Hal

open Option

/-- `SensorTypeEnum`. -/
inductive SensorType where
  | acc
  | mag
  | gyro
  | light
  | proxi
deriving DecidableEq

/-- The type that a number stands for, below `SENSOR_TYPE_AMOUNT`. -/
def SensorType.ofNat? : ℕ → Option SensorType
  | 0 => some .acc
  | 1 => some .mag
  | 2 => some .gyro
  | 3 => some .light
  | 4 => some .proxi
  | _ => none

/-! ## The queue and the thread -/

/-- `mSensorEnableCnt`, the types enabled on `mspSensorEventQueue` (none if that is `NULL`), and
`mspThread`.  `threads` are the threads that run, `nextThread` is the number of the next one. -/
structure Polling where
  mSensorEnableCnt : ℕ
  enabled : Finset SensorType
  mspThread : Option ℕ
  threads : List ℕ
  nextThread : ℕ

namespace Polling

/-- A new queue or none, and the counter at 0.  Nothing is done about the thread. -/
def reset (p : Polling) : Polling := { p with mSensorEnableCnt := 0, enabled := ∅ }

/-- The thread is made if the counter says that there is none. -/
def startThread (p : Polling) : Polling :=
  if p.mSensorEnableCnt = 0 then
    { p with
      mspThread := some p.nextThread
      threads := p.threads ++ [p.nextThread]
      nextThread := p.nextThread + 1 }
  else p

/-- The part of `enableSensor` behind its checks. -/
def enable (p : Polling) (t : SensorType) : Polling :=
  let p := p.startThread
  { p with
    enabled := insert t p.enabled
    mSensorEnableCnt := (p.mSensorEnableCnt + 1) % 4294967296 }

/-- The thread is asked to exit and joined if the counter says that this is the last call; `none` is a call
through `NULL`. -/
def stopThread (p : Polling) : Option Polling :=
  if p.mSensorEnableCnt = 1 then
    p.mspThread.map fun thread => { p with mspThread := none, threads := p.threads.erase thread }
  else some p

/-- The part of `disableSensor` behind its checks. -/
def disable (p : Polling) (t : SensorType) : Option Polling :=
  p.stopThread.map fun p =>
    { p with
      enabled := p.enabled.erase t
      mSensorEnableCnt := p.mSensorEnableCnt - 1 }

/-- The thread runs exactly while a type is enabled, and is the only one. -/
def Ok (p : Polling) : Prop := (p.threads ≠ [] ↔ p.enabled ≠ ∅) ∧ p.threads.length ≤ 1

instance (p : Polling) : Decidable p.Ok :=
  inferInstanceAs (Decidable ((p.threads ≠ [] ↔ p.enabled ≠ ∅) ∧ p.threads.length ≤ 1))

/-- Besides, it is the thread that `mspThread` points at, and with no type enabled the counter is 0. -/
structure Inv (p : Polling) : Prop where
  threads_eq : p.threads = p.mspThread.toList
  thread_iff : p.mspThread = none ↔ p.enabled = ∅
  count_zero : p.enabled = ∅ → p.mSensorEnableCnt = 0

variable {p : Polling}

lemma Inv.ok (h : p.Inv) : p.Ok := by
  refine ⟨?_, ?_⟩
  · rw [ne_eq, ne_eq, not_iff_not, ← h.thread_iff, h.threads_eq, toList_eq_nil_iff]
  · rw [h.threads_eq]
    cases p.mspThread <;> simp

lemma Inv.exists_thread (h : p.Inv) (hne : p.enabled ≠ ∅) :
    ∃ thread, p.mspThread = some thread ∧ p.threads = [thread] := by
  obtain ⟨thread, hthread⟩ := ne_none_iff_exists'.mp fun hnone => hne (h.thread_iff.mp hnone)
  exact ⟨thread, hthread, by rw [h.threads_eq, hthread]; rfl⟩

lemma Inv.reset_ok_iff (h : p.Inv) : p.reset.Ok ↔ p.enabled = ∅ := by
  constructor
  · intro hok
    by_contra hne
    obtain ⟨thread, -, hthreads⟩ := h.exists_thread hne
    exact hok.1.mp (by simp [reset, hthreads]) rfl
  · intro hempty
    have hnone := h.thread_iff.mpr hempty
    simp [Ok, reset, h.threads_eq, hnone]

lemma Inv.reset (h : p.Inv) (hempty : p.enabled = ∅) : p.reset.Inv :=
  ⟨h.threads_eq, by simpa [Polling.reset] using h.thread_iff.mpr hempty, fun _ => rfl⟩

lemma Inv.enable (h : p.Inv) (t : SensorType)
    (hcount : p.mSensorEnableCnt = 0 → p.enabled = ∅) : (p.enable t).Inv := by
  by_cases hzero : p.mSensorEnableCnt = 0
  · have hthreads : p.threads = [] := by simp [h.threads_eq, h.thread_iff.mpr (hcount hzero)]
    constructor <;> simp [Polling.enable, startThread, hzero, hthreads]
  · obtain ⟨thread, hthread, hthreads⟩ := h.exists_thread fun hempty => hzero (h.count_zero hempty)
    constructor <;> simp [Polling.enable, startThread, hzero, hthread, hthreads]

lemma Inv.enable_ok_iff (h : p.Inv) (t : SensorType) :
    (p.enable t).Ok ↔ (p.mSensorEnableCnt = 0 → p.enabled = ∅) := by
  constructor
  · intro hok hzero
    by_contra hne
    -- a second thread is made
    obtain ⟨thread, -, hthreads⟩ := h.exists_thread hne
    have hlen := hok.2
    simp [Polling.enable, startThread, hzero, hthreads] at hlen
  · exact fun hcount => (h.enable t hcount).ok

lemma Inv.disable_eq (h : p.Inv) (t : SensorType) (hpos : 0 < p.mSensorEnableCnt) :
    ∃ p', p.disable t = some p' ∧ p'.enabled = p.enabled.erase t
      ∧ p'.mSensorEnableCnt = p.mSensorEnableCnt - 1
      ∧ p'.threads = p'.mspThread.toList ∧ (p'.mspThread = none ↔ p.mSensorEnableCnt = 1) := by
  have hne : p.enabled ≠ ∅ := fun hempty => by
    rw [h.count_zero hempty] at hpos
    exact absurd hpos (lt_irrefl 0)
  obtain ⟨thread, hthread, hthreads⟩ := h.exists_thread hne
  by_cases hone : p.mSensorEnableCnt = 1 <;>
    simp [disable, stopThread, hone, hthread, hthreads]

lemma Inv.disable_ok_iff {p' : Polling} (h : p.Inv) {t : SensorType} (hpos : 0 < p.mSensorEnableCnt)
    (hp' : p.disable t = some p') : p'.Ok ↔ (p.mSensorEnableCnt = 1 ↔ p.enabled.erase t = ∅) := by
  obtain ⟨q, hq, henabled, -, hthreads, hnone⟩ := h.disable_eq t hpos
  obtain rfl : q = p' := Option.some.inj (hq.symm.trans hp')
  have hlen : q.threads.length ≤ 1 := by
    rw [hthreads]
    cases q.mspThread <;> simp
  rw [Ok, and_iff_left hlen, ne_eq, ne_eq, not_iff_not, henabled, hthreads, toList_eq_nil_iff, hnone]

lemma Inv.disable {p' : Polling} (h : p.Inv) {t : SensorType} (hpos : 0 < p.mSensorEnableCnt)
    (hp' : p.disable t = some p') (hlast : p.mSensorEnableCnt = 1 ↔ p.enabled.erase t = ∅) : p'.Inv := by
  obtain ⟨q, hq, henabled, hcount, hthreads, hnone⟩ := h.disable_eq t hpos
  obtain rfl : q = p' := Option.some.inj (hq.symm.trans hp')
  refine ⟨hthreads, by rw [hnone, henabled, hlast], fun hempty => ?_⟩
  rw [henabled, ← hlast] at hempty
  rw [hcount, hempty]

/-- While the counter is not 0 there is a thread to ask to exit. -/
def Held (p : Polling) : Prop := 0 < p.mSensorEnableCnt → p.mspThread ≠ none

lemma Held.enable (h : p.Held) (t : SensorType) : (p.enable t).Held := by
  intro _
  by_cases hzero : p.mSensorEnableCnt = 0
  · simp [Polling.enable, startThread, hzero]
  · simpa [Polling.enable, startThread, hzero] using h (Nat.pos_of_ne_zero hzero)

lemma Held.disable (h : p.Held) (t : SensorType) (hpos : 0 < p.mSensorEnableCnt) :
    ∃ p', p.disable t = some p' ∧ p'.Held := by
  obtain ⟨thread, hthread⟩ := ne_none_iff_exists'.mp (h hpos)
  by_cases hone : p.mSensorEnableCnt = 1
  · simp [Polling.disable, stopThread, hone, hthread, Held]
  · simp [Polling.disable, stopThread, hone, hthread, Held]

end Polling

/-! ## The listener -/

/-- The listener, behind its lock.  `mpSensor` says which default sensors there are. -/
structure ListenerState where
  mUser : ℤ
  mpSensor : Finset SensorType
  polling : Polling

/-- Calls of any of the users.  `init` may find a boot mode that it does not support, and the first finds
out which sensors there are; a sensor type is any number. -/
inductive ListenerAct where
  | init (supported : Bool) (available : Finset SensorType)
  | enableSensor (sensorType : ℕ)
  | disableSensor (sensorType : ℕ)
  | uninit

namespace ListenerState

def new : ListenerState := ⟨0, ∅, ⟨0, ∅, none, [], 0⟩⟩

/-- `init`, with the increment of a 32-bit `mUser`. -/
def init (s : ListenerState) (supported : Bool) (available : Finset SensorType) : ListenerState :=
  if supported = false then s
  else if s.mUser ≠ 0 then { s with mUser := Int.bmod (s.mUser + 1) 4294967296 }
  else ⟨Int.bmod (s.mUser + 1) 4294967296, available, s.polling.reset⟩

/-- The type that `enableSensor` and `disableSensor` are about, if they get past their checks. -/
def sensor (s : ListenerState) (sensorType : ℕ) : Option SensorType :=
  if s.mUser ≤ 0 then none else (SensorType.ofNat? sensorType).filter (· ∈ s.mpSensor)

def enableSensor (s : ListenerState) (sensorType : ℕ) : ListenerState :=
  match s.sensor sensorType with
  | none => s
  | some t => { s with polling := s.polling.enable t }

def disableSensor (s : ListenerState) (sensorType : ℕ) : Option ListenerState :=
  match s.sensor sensorType with
  | none => some s
  | some t =>
    if s.polling.mSensorEnableCnt > 0 then
      (s.polling.disable t).map fun polling => { s with polling := polling }
    else some s

def uninit (s : ListenerState) : ListenerState :=
  if s.mUser ≤ 0 then s
  else if s.mUser - 1 ≠ 0 then { s with mUser := s.mUser - 1 }
  else ⟨s.mUser - 1, ∅, s.polling.reset⟩

def step (s : ListenerState) : ListenerAct → Option ListenerState
  | .init supported available => some (s.init supported available)
  | .enableSensor sensorType => some (s.enableSensor sensorType)
  | .disableSensor sensorType => s.disableSensor sensorType
  | .uninit => some s.uninit

/-- What a call has to meet.  The counter tells correctly whether a type is enabled, and whether the one to
be disabled is the last; no type is enabled when the first user comes or the last one leaves. -/
def Regular (s : ListenerState) : ListenerAct → Prop
  | .init supported _ => supported = true → s.mUser = 0 → s.polling.enabled = ∅
  | .enableSensor sensorType =>
    ∀ _t ∈ s.sensor sensorType, s.polling.mSensorEnableCnt = 0 → s.polling.enabled = ∅
  | .disableSensor sensorType =>
    ∀ t ∈ s.sensor sensorType, 0 < s.polling.mSensorEnableCnt →
      (s.polling.mSensorEnableCnt = 1 ↔ s.polling.enabled.erase t = ∅)
  | .uninit => s.mUser = 1 → s.polling.enabled = ∅

instance (s : ListenerState) : DecidablePred s.Regular
  | .init supported _ =>
    inferInstanceAs (Decidable (supported = true → s.mUser = 0 → s.polling.enabled = ∅))
  | .enableSensor sensorType => inferInstanceAs (Decidable (∀ _t ∈ s.sensor sensorType, _ → _))
  | .disableSensor sensorType => inferInstanceAs (Decidable (∀ _t ∈ s.sensor sensorType, _ → _))
  | .uninit => inferInstanceAs (Decidable (s.mUser = 1 → s.polling.enabled = ∅))

/-- **What a call can do** to the queue and the thread, and when it is regular. -/
inductive Move (p : Polling) (regular : Prop) : Polling → Prop
  | keep (hreg : regular) : Move p regular p
  | reset (hreg : regular ↔ p.enabled = ∅) : Move p regular p.reset
  | enable (t : SensorType) (hreg : regular ↔ (p.mSensorEnableCnt = 0 → p.enabled = ∅)) :
      Move p regular (p.enable t)
  | disable {p' : Polling} (t : SensorType) (hpos : 0 < p.mSensorEnableCnt) (hp' : p.disable t = some p')
      (hreg : regular ↔ (p.mSensorEnableCnt = 1 ↔ p.enabled.erase t = ∅)) : Move p regular p'

lemma step_move {s s' : ListenerState} {act : ListenerAct} (hs' : s.step act = some s') :
    Move s.polling (s.Regular act) s'.polling := by
  cases act with
  | init supported available =>
    cases hs'
    simp only [init]
    split_ifs with hsupported huser
    · exact .keep (by simp [Regular, hsupported])
    · exact .keep (by simp [Regular, huser])
    · exact .reset (by simp [Regular, hsupported, not_not.mp huser])
  | enableSensor sensorType =>
    cases hs'
    simp only [enableSensor]
    cases hsensor : s.sensor sensorType with
    | none => exact .keep (by simp [Regular, hsensor])
    | some t => exact .enable t (by simp [Regular, hsensor])
  | disableSensor sensorType =>
    simp only [step, disableSensor] at hs'
    cases hsensor : s.sensor sensorType with
    | none =>
      rw [hsensor] at hs'
      cases hs'
      exact .keep (by simp [Regular, hsensor])
    | some t =>
      simp only [hsensor] at hs'
      split_ifs at hs' with hpos
      · obtain ⟨p', hp', rfl⟩ := map_eq_some_iff.mp hs'
        exact .disable t hpos hp' (by simp [Regular, hsensor, hpos])
      · cases hs'
        exact .keep (by simp [Regular, hsensor, hpos])
  | uninit =>
    cases hs'
    simp only [uninit]
    split_ifs with hnone hmore
    · exact .keep fun hone => by omega
    · exact .keep fun hone => by omega
    · have hone : s.mUser = 1 := by omega
      exact .reset (by simp [Regular, hone])

/-! ## Runs -/

variable {p p' : Polling} {regular : Prop}

lemma Move.ok_iff (h : Move p regular p') (hinv : p.Inv) : p'.Ok ↔ regular := by
  cases h with
  | keep hreg => exact iff_of_true hinv.ok hreg
  | reset hreg => rw [hreg, hinv.reset_ok_iff]
  | enable t hreg => rw [hreg, hinv.enable_ok_iff t]
  | disable t hpos hp' hreg => rw [hreg, hinv.disable_ok_iff hpos hp']

lemma Move.inv (h : Move p regular p') (hinv : p.Inv) (hregular : regular) : p'.Inv := by
  cases h with
  | keep _ => exact hinv
  | reset hreg => exact hinv.reset (hreg.mp hregular)
  | enable t hreg => exact hinv.enable t (hreg.mp hregular)
  | disable t hpos hp' hreg => exact hinv.disable hpos hp' (hreg.mp hregular)

lemma Move.held (h : Move p regular p') (hheld : p.Held) : p'.Held := by
  cases h with
  | keep _ => exact hheld
  | reset _ => exact fun hpos => absurd hpos (lt_irrefl 0)
  | enable t _ => exact hheld.enable t
  | disable t hpos hp' _ =>
    obtain ⟨q, hq, hheld'⟩ := hheld.disable t hpos
    exact Option.some.inj (hq.symm.trans hp') ▸ hheld'

lemma step_held {s : ListenerState} (act : ListenerAct) (h : s.polling.Held) :
    ∃ s', s.step act = some s' ∧ s'.polling.Held := by
  suffices hdefined : ∃ s', s.step act = some s' from
    hdefined.imp fun _ hs' => ⟨hs', (step_move hs').held h⟩
  cases act with
  | init | enableSensor | uninit => exact ⟨_, rfl⟩
  | disableSensor sensorType =>
    simp only [step, disableSensor]
    cases s.sensor sensorType with
    | none => exact ⟨_, rfl⟩
    | some t =>
      split_ifs with hpos
      · obtain ⟨q, hq, -⟩ := h.disable t hpos
        exact ⟨{ s with polling := q }, by simp [hq]⟩
      · exact ⟨_, rfl⟩

lemma run_listener (acts : List ListenerAct) : ∃ s, run step new acts = some s :=
  run_eq_some_of_invariant (I := fun s => s.polling.Held) (fun _ act h => step_held act h) acts
    fun hpos => absurd hpos (lt_irrefl 0)

/-- **The thread runs exactly while a type is enabled, and is the only one, all along a sequence of calls iff
all of them are regular.** -/
theorem listener_ok_iff (acts : List ListenerAct) :
    Along step (fun s => s.polling.Ok) new acts ↔ StepsMeet step Regular new acts := by
  obtain ⟨s, hrun⟩ := run_listener acts
  exact along_iff_stepsMeet (I := fun s => s.polling.Inv)
    (fun _ _ _ hinv hreg hs' => (step_move hs').inv hinv hreg) (fun _ hinv => hinv.ok)
    (fun _ _ _ hinv hirr hs' hok => hirr (((step_move hs').ok_iff hinv).mp hok))
    ⟨rfl, by simp [new], fun _ => rfl⟩ hrun

/-- Two types of two users, each enabled and disabled once. -/
example : StepsMeet step Regular new
    [.init true {.acc, .gyro}, .init true ∅, .enableSensor 0, .enableSensor 2, .enableSensor 9,
      .disableSensor 0, .disableSensor 2, .uninit, .uninit] := by decide

/-- **The defects.**  The last user leaves with a type enabled: the thread stays, and the next user gets a
second one.  A type is enabled twice and disabled once: it is off and the thread still runs.  Two types are
enabled and one of them is disabled twice: the other is left without a thread. -/
theorem thread_outlives_sensors :
    (run step new [.init true {.acc}, .enableSensor 0, .uninit]).map
        (fun s => (s.polling.threads, s.polling.enabled, decide s.polling.Ok)) = some ([0], ∅, false)
      ∧ (run step new [.init true {.acc}, .enableSensor 0, .uninit, .init true {.acc},
          .enableSensor 0]).map (fun s => s.polling.threads) = some [0, 1]
      ∧ (run step new [.init true {.acc}, .enableSensor 0, .enableSensor 0, .disableSensor 0]).map
        (fun s => (s.polling.threads, s.polling.enabled, decide s.polling.Ok)) = some ([0], ∅, false)
      ∧ (run step new [.init true {.acc, .mag}, .enableSensor 0, .enableSensor 1, .disableSensor 0,
          .disableSensor 0]).map (fun s => (s.polling.threads, s.polling.enabled, decide s.polling.Ok))
        = some ([], {.mag}, false) := by
  decide

end ListenerState

end Hal
