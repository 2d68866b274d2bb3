import DeviceHal.Core.Trace

/-!
# Starting and stopping a session

`mtk_gps_start` and `mtk_gps_stop` wait for each other by a flag: a start waits until `start_flag` is 0 and sets it in
the end, a stop waits until it is 1.  The flag is cleared by the handler of `HAL_CMD_MNL_DIE`, with which `mnld` answers
a stop.  In between a start waits for the first NMEA sentence of the new session, which the GPS thread announces once,
by `flag_unlock`, until the next `HAL_CMD_MNL_DIE`.

The caller's thread takes one step at a time, between which the GPS thread may handle any number of messages.  A round
of a waiting loop is a step that changes nothing.

**The defect.**  Nothing ends the waiting of a stop without a start before it, or of a start after a start.  Of two stops
the second waits for ever if the answer to the first has come.

* `Session.step` — the caller and the messages.
* `Phase` — where caller, flags and `mnld` stand, if starts and stops take turns.
* `stop_waits_forever` — what happens otherwise.
* **`calls_return`** — along every fair execution in which the starts and the stops that were sent take turns, and in
  which `mnld` dies only when it is told to, every call returns.
-/

namespace Hal

/-! ## The program -/

/-- Where the caller is.  The `Bool` says whether its command will be sent. -/
inductive Caller where
  | idle
  /-- `while (s->start_flag == 1)`. -/
  | startWaits (sent : Bool)
  /-- `get_condition(&lock_for_sync[M_START])`. -/
  | startSyncs
  /-- Behind it, up to `s->start_flag = 1`. -/
  | startReports
  /-- `while (s->start_flag == 0)`. -/
  | stopWaits (sent : Bool)
deriving DecidableEq

structure Session where
  startFlag : Bool
  flagUnlock : Bool
  /-- `lock_for_sync[M_START].condtion`. -/
  mStart : Bool
  /-- `lock_for_sync[M_STOP].condtion`. -/
  mStop : Bool
  caller : Caller
  /-- The starts and stops that `mnld` has not answered. -/
  startsOut : ℕ
  stopsOut : ℕ
  /-- The last command that was sent is a start. -/
  running : Bool

inductive SessionAct where
  | start (sent : Bool)
  | stop (sent : Bool)
  | callerSteps
  | nmea
  | mnlDie
deriving DecidableEq

namespace Session

def init : Session := ⟨false, false, false, false, .idle, 0, 0, false⟩

/-- `mtk_gps_start` and `mtk_gps_stop` behind the test of `s->init`, one step. -/
def callerStep (s : Session) : Session :=
  match s.caller with
  | .idle => s
  | .startWaits sent =>
    if s.startFlag then s
    else if sent then { s with caller := .startSyncs, startsOut := s.startsOut + 1, running := true }
    else { s with caller := .idle }
  | .startSyncs => if s.mStart then { s with mStart := false, caller := .startReports } else s
  | .startReports => { s with mStop := false, startFlag := true, caller := .idle }
  | .stopWaits sent =>
    if s.startFlag then
      if sent then { s with caller := .idle, stopsOut := s.stopsOut + 1, running := false }
      else { s with caller := .idle }
    else s

/-- Data at `gps_fd`; it answers the starts. -/
def nmea (s : Session) : Session :=
  if s.flagUnlock then { s with startsOut := 0 } else { s with mStart := true, flagUnlock := true, startsOut := 0 }

/-- `HAL_CMD_MNL_DIE`; it answers a stop. -/
def mnlDie (s : Session) : Session :=
  { s with flagUnlock := false, mStop := true, startFlag := false, stopsOut := s.stopsOut - 1 }

/-- A call is made when the one before has returned. -/
def step (s : Session) : SessionAct → Option Session
  | .start sent => if s.caller = .idle then some { s with caller := .startWaits sent } else none
  | .stop sent => if s.caller = .idle then some { s with caller := .stopWaits sent } else none
  | .callerSteps => some s.callerStep
  | .nmea => some s.nmea
  | .mnlDie => some s.mnlDie

/-! ## What is asked for, and what is assumed -/

/-- The caller's thread runs again and again, and `mnld` answers every command sooner or later. -/
structure Fair (t : Trace step init) : Prop where
  caller : t.Recurs (· = .callerSteps)
  starts : ∀ n, 0 < (t.state n).startsOut → ∃ m, n ≤ m ∧ t.act m = .nmea
  stops : ∀ n, 0 < (t.state n).stopsOut → ∃ m, n ≤ m ∧ t.act m = .mnlDie

def Returns (t : Trace step init) : Prop := t.LeadsTo (fun _ => True) fun s => s.caller = .idle

/-- A start is called when the last command that was sent is not a start, a stop when it is, and `mnld` dies when it has
been told to stop. -/
def Proper (s : Session) : SessionAct → Prop
  | .start _ => s.running = false
  | .stop _ => s.running = true
  | .callerSteps => True
  | .nmea => True
  | .mnlDie => 0 < s.stopsOut

/-! ## Phases -/

/-- A release of `M_START` is not lost while no session is running. -/
def Unlocked (s : Session) : Prop := s.flagUnlock = true → s.mStart = true

inductive Phase (s : Session) : Prop
  /-- No session, and none to come but by a start. -/
  | off (hcaller : s.caller = .idle ∨ ∃ sent, s.caller = .startWaits sent) (hflag : s.startFlag = false)
      (hout : s.stopsOut = 0) (hrun : s.running = false) (hlock : s.Unlocked)
  /-- The start was sent. -/
  | starting (hcaller : s.caller = .startSyncs) (hflag : s.startFlag = false) (hout : s.stopsOut = 0)
      (hrun : s.running = true) (hlock : s.Unlocked) (hanswer : 0 < s.startsOut ∨ s.mStart = true)
  | reporting (hcaller : s.caller = .startReports) (hout : s.stopsOut = 0) (hrun : s.running = true)
  /-- The session runs. -/
  | on (hcaller : s.caller = .idle ∨ ∃ sent, s.caller = .stopWaits sent) (hflag : s.startFlag = true)
      (hout : s.stopsOut = 0) (hrun : s.running = true)
  /-- The stop was sent, and is not answered yet. -/
  | stopping (hcaller : s.caller = .idle ∨ ∃ sent, s.caller = .startWaits sent) (hflag : s.startFlag = true)
      (hout : s.stopsOut = 1) (hrun : s.running = false)

lemma init_phase : Phase init := .off (.inl rfl) rfl rfl rfl fun h => Bool.noConfusion h

variable {s : Session}

lemma Unlocked.nmea (h : s.Unlocked) : s.nmea.Unlocked ∧ s.nmea.mStart = true := by
  unfold Session.nmea
  by_cases hunlock : s.flagUnlock = true
  · rw [if_pos hunlock]
    exact ⟨h, h hunlock⟩
  · rw [if_neg hunlock]
    exact ⟨fun _ => rfl, rfl⟩

lemma nmea_frame (s : Session) : s.nmea.caller = s.caller ∧ s.nmea.startFlag = s.startFlag ∧
    s.nmea.stopsOut = s.stopsOut ∧ s.nmea.running = s.running := by
  unfold nmea
  split_ifs
  · exact ⟨rfl, rfl, rfl, rfl⟩
  · exact ⟨rfl, rfl, rfl, rfl⟩

lemma Phase.nmea (h : Phase s) : Phase s.nmea := by
  obtain ⟨hc, hf, ho, hr⟩ := nmea_frame s
  cases h with
  | off hcaller hflag hout hrun hlock =>
    exact .off (hc ▸ hcaller) (hf.trans hflag) (ho.trans hout) (hr.trans hrun) hlock.nmea.1
  | starting hcaller hflag hout hrun hlock _ =>
    exact .starting (hc.trans hcaller) (hf.trans hflag) (ho.trans hout) (hr.trans hrun) hlock.nmea.1
      (.inr hlock.nmea.2)
  | reporting hcaller hout hrun => exact .reporting (hc.trans hcaller) (ho.trans hout) (hr.trans hrun)
  | on hcaller hflag hout hrun => exact .on (hc ▸ hcaller) (hf.trans hflag) (ho.trans hout) (hr.trans hrun)
  | stopping hcaller hflag hout hrun =>
    exact .stopping (hc ▸ hcaller) (hf.trans hflag) (ho.trans hout) (hr.trans hrun)

lemma Phase.mnlDie (h : Phase s) (hdie : 0 < s.stopsOut) : Phase s.mnlDie := by
  cases h with
  | off | starting | reporting | on => exact absurd hdie (by omega)
  | stopping hcaller _ hout hrun =>
    refine .off hcaller rfl ?_ hrun fun h => Bool.noConfusion h
    show s.stopsOut - 1 = 0
    omega

/-! The caller's steps, by where it is. -/

lemma callerStep_idle (h : s.caller = .idle) : s.callerStep = s := by simp only [Session.callerStep, h]

variable {sent : Bool}

lemma callerStep_startWaits (h : s.caller = .startWaits sent) (hflag : s.startFlag = false) :
    s.callerStep = if sent then { s with caller := .startSyncs, startsOut := s.startsOut + 1, running := true }
      else { s with caller := .idle } := by
  rw [Session.callerStep, h]
  exact if_neg (Bool.eq_false_iff.mp hflag)

lemma callerStep_startWaits_blocked (h : s.caller = .startWaits sent) (hflag : s.startFlag = true) :
    s.callerStep = s := by
  rw [Session.callerStep, h]
  exact if_pos hflag

lemma callerStep_startSyncs (h : s.caller = .startSyncs) :
    s.callerStep = if s.mStart then { s with mStart := false, caller := .startReports } else s := by
  rw [Session.callerStep, h]

lemma callerStep_startReports (h : s.caller = .startReports) :
    s.callerStep = { s with mStop := false, startFlag := true, caller := .idle } := by
  rw [Session.callerStep, h]

lemma callerStep_stopWaits (h : s.caller = .stopWaits sent) (hflag : s.startFlag = true) :
    s.callerStep = if sent then { s with caller := .idle, stopsOut := s.stopsOut + 1, running := false }
      else { s with caller := .idle } := by
  rw [Session.callerStep, h]
  exact if_pos hflag

lemma callerStep_stopWaits_blocked (h : s.caller = .stopWaits sent) (hflag : s.startFlag = false) :
    s.callerStep = s := by
  rw [Session.callerStep, h]
  exact if_neg (Bool.eq_false_iff.mp hflag)

lemma Phase.callerStep (h : Phase s) : Phase s.callerStep := by
  cases h with
  | off hcaller hflag hout hrun hlock =>
    rcases hcaller with hidle | ⟨sent, hwaits⟩
    · rw [callerStep_idle hidle]
      exact .off (.inl hidle) hflag hout hrun hlock
    · rw [callerStep_startWaits hwaits hflag]
      cases sent with
      | true => exact .starting rfl hflag hout rfl hlock (.inl (Nat.succ_pos _))
      | false => exact .off (.inl rfl) hflag hout hrun hlock
  | starting hcaller hflag hout hrun hlock hanswer =>
    rw [callerStep_startSyncs hcaller]
    cases hstart : s.mStart with
    | true => exact .reporting rfl hout hrun
    | false => exact .starting hcaller hflag hout hrun hlock hanswer
  | reporting hcaller hout hrun =>
    rw [callerStep_startReports hcaller]
    exact .on (.inl rfl) rfl hout hrun
  | on hcaller hflag hout hrun =>
    rcases hcaller with hidle | ⟨sent, hwaits⟩
    · rw [callerStep_idle hidle]
      exact .on (.inl hidle) hflag hout hrun
    · rw [callerStep_stopWaits hwaits hflag]
      cases sent with
      | true => exact .stopping (.inl rfl) hflag (congrArg (· + 1) hout) rfl
      | false => exact .on (.inl rfl) hflag hout hrun
  | stopping hcaller hflag hout hrun =>
    rcases hcaller with hidle | ⟨sent, hwaits⟩
    · rw [callerStep_idle hidle]
      exact .stopping (.inl hidle) hflag hout hrun
    · rw [callerStep_startWaits_blocked hwaits hflag]
      exact .stopping (.inr ⟨sent, hwaits⟩) hflag hout hrun

lemma Phase.start (h : Phase s) (hidle : s.caller = .idle) (hrun : s.running = false) (sent : Bool) :
    Phase { s with caller := .startWaits sent } := by
  cases h with
  | off _ hflag hout _ hlock => exact .off (.inr ⟨sent, rfl⟩) hflag hout hrun hlock
  | starting hcaller _ _ _ _ _ | reporting hcaller _ _ => cases hidle.symm.trans hcaller
  | on _ _ _ hrun' => cases hrun.symm.trans hrun'
  | stopping _ hflag hout _ => exact .stopping (.inr ⟨sent, rfl⟩) hflag hout hrun

lemma Phase.stop (h : Phase s) (hidle : s.caller = .idle) (hrun : s.running = true) (sent : Bool) :
    Phase { s with caller := .stopWaits sent } := by
  cases h with
  | off _ _ _ hrun' _ | stopping _ _ _ hrun' => cases hrun.symm.trans hrun'
  | starting hcaller _ _ _ _ _ | reporting hcaller _ _ => cases hidle.symm.trans hcaller
  | on _ hflag hout _ => exact .on (.inr ⟨sent, rfl⟩) hflag hout hrun

/-- **Every proper step** leads from phase to phase. -/
lemma Phase.step {a : SessionAct} {s' : Session} (h : Phase s) (hproper : s.Proper a) (hstep : s.step a = some s') :
    Phase s' := by
  cases a with
  | start sent =>
    obtain ⟨hidle, rfl⟩ := Option.ite_some_none_eq_some.mp hstep
    exact h.start hidle hproper sent
  | stop sent =>
    obtain ⟨hidle, rfl⟩ := Option.ite_some_none_eq_some.mp hstep
    exact h.stop hidle hproper sent
  | callerSteps =>
    cases hstep
    exact h.callerStep
  | nmea =>
    cases hstep
    exact h.nmea
  | mnlDie =>
    cases hstep
    exact h.mnlDie hproper

/-! ## Progress -/

lemma caller_stays {a : SessionAct} {s' : Session} (hbusy : s.caller ≠ .idle) (ha : a ≠ .callerSteps)
    (hstep : s.step a = some s') : s'.caller = s.caller ∧ (a = .nmea ∧ s' = s.nmea ∨ a = .mnlDie ∧ s' = s.mnlDie) := by
  cases a with
  | start | stop => exact absurd (Option.ite_none_right_eq_some.mp hstep).1 hbusy
  | callerSteps => exact absurd rfl ha
  | nmea =>
    cases hstep
    exact ⟨(nmea_frame s).1, .inl ⟨rfl, rfl⟩⟩
  | mnlDie =>
    cases hstep
    exact ⟨rfl, .inr ⟨rfl, rfl⟩⟩

section Progress

variable {t : Trace step init}

lemma phase_of_meets (hproper : t.Meets Proper) : ∀ n, Phase (t.state n) :=
  t.invariant init_phase fun n h => h.step (hproper n) (t.step_eq n)

variable {n : ℕ}

lemma state_callerSteps (ha : t.act n = .callerSteps) : t.state (n + 1) = (t.state n).callerStep := by
  have hstep := t.step_eq n
  rw [ha] at hstep
  exact (Option.some.inj hstep).symm

lemma state_nmea (ha : t.act n = .nmea) : t.state (n + 1) = (t.state n).nmea := by
  have hstep := t.step_eq n
  rw [ha] at hstep
  exact (Option.some.inj hstep).symm

lemma state_mnlDie (ha : t.act n = .mnlDie) : t.state (n + 1) = (t.state n).mnlDie := by
  have hstep := t.step_eq n
  rw [ha] at hstep
  exact (Option.some.inj hstep).symm

/-- **The caller goes on**: what its next step turns into `Q`, and messages leave alone, leads to `Q`. -/
lemma leadsTo_of_callerStep {P Q : Session → Prop} (hfair : Fair t) (hproper : t.Meets Proper)
    (hmoves : ∀ s, Phase s → P s → Q s.callerStep) (hbusy : ∀ s, P s → s.caller ≠ .idle)
    (hnmea : ∀ s, P s → P s.nmea) (hdie : ∀ s, P s → P s.mnlDie) : t.LeadsTo P Q := by
  have hhelp : ∀ n, P (t.state n) → t.act n = .callerSteps → Q (t.state (n + 1)) := by
    intro n hP ha
    rw [state_callerSteps ha]
    exact hmoves _ (phase_of_meets hproper n) hP
  refine Trace.ensures (A := (· = .callerSteps)) ?_ hhelp fun n _ => hfair.caller n
  intro n hP
  by_cases ha : t.act n = .callerSteps
  · exact .inr (hhelp n hP ha)
  · left
    rcases (caller_stays (hbusy _ hP) ha (t.step_eq n)).2 with ⟨-, heq⟩ | ⟨-, heq⟩
    · rw [heq]
      exact hnmea _ hP
    · rw [heq]
      exact hdie _ hP

/-- Waiting for the flag: what brings it is the answer to the stop. -/
def WaitsForDie (s : Session) : Prop := (∃ sent, s.caller = .startWaits sent) ∧ s.startFlag = true

def MayStart (s : Session) : Prop := (∃ sent, s.caller = .startWaits sent) ∧ s.startFlag = false

def WaitsForNmea (s : Session) : Prop := s.caller = .startSyncs ∧ s.mStart = false

def MayReport (s : Session) : Prop := s.caller = .startSyncs ∧ s.mStart = true

lemma WaitsForDie.stopsOut_pos (h : s.WaitsForDie) (hphase : Phase s) : 0 < s.stopsOut := by
  obtain ⟨⟨sent, hwaits⟩, hflag⟩ := h
  cases hphase with
  | off _ hflag' _ _ _ => cases hflag.symm.trans hflag'
  | starting hcaller _ _ _ _ _ | reporting hcaller _ _ => cases hwaits.symm.trans hcaller
  | on hcaller _ _ _ => simp [hwaits] at hcaller
  | stopping _ _ hout _ => omega

/-- The sentence that is waited for is still to come, and will be announced. -/
lemma WaitsForNmea.starting (h : s.WaitsForNmea) (hphase : Phase s) :
    0 < s.startsOut ∧ s.stopsOut = 0 ∧ s.Unlocked := by
  obtain ⟨hsyncs, hstart⟩ := h
  cases hphase with
  | off hcaller _ _ _ _ | on hcaller _ _ _ | stopping hcaller _ _ _ => simp [hsyncs] at hcaller
  | starting _ _ hout _ hlock hanswer =>
    rcases hanswer with hpos | hstart'
    · exact ⟨hpos, hout, hlock⟩
    · cases hstart.symm.trans hstart'
  | reporting hcaller _ _ => cases hsyncs.symm.trans hcaller

lemma startFlag_of_stopWaits {sent : Bool} (h : s.caller = .stopWaits sent) (hphase : Phase s) :
    s.startFlag = true := by
  cases hphase with
  | off hcaller _ _ _ _ => simp [h] at hcaller
  | starting hcaller _ _ _ _ _ | reporting hcaller _ _ => cases h.symm.trans hcaller
  | on _ hflag _ _ => exact hflag
  | stopping _ hflag _ _ => exact hflag

variable (hfair : Fair t) (hproper : t.Meets Proper)
include hfair hproper

lemma stop_returns : t.LeadsTo (fun s => ∃ sent, s.caller = .stopWaits sent) fun s => s.caller = .idle := by
  refine leadsTo_of_callerStep hfair hproper ?_ ?_ ?_ ?_
  · rintro s hphase ⟨sent, hwaits⟩
    rw [callerStep_stopWaits hwaits (startFlag_of_stopWaits hwaits hphase)]
    cases sent with
    | true => rfl
    | false => rfl
  · rintro s ⟨sent, hwaits⟩ hidle
    cases hidle.symm.trans hwaits
  · rintro s ⟨sent, hwaits⟩
    exact ⟨sent, (nmea_frame s).1.trans hwaits⟩
  · exact fun s h => h

lemma report_returns : t.LeadsTo (fun s => s.caller = .startReports) fun s => s.caller = .idle := by
  refine leadsTo_of_callerStep hfair hproper ?_ ?_ ?_ ?_
  · intro s _ hreports
    rw [callerStep_startReports hreports]
  · intro s hreports hidle
    cases hidle.symm.trans hreports
  · exact fun s hreports => (nmea_frame s).1.trans hreports
  · exact fun s h => h

lemma mayReport_leads : t.LeadsTo MayReport fun s => s.caller = .startReports := by
  refine leadsTo_of_callerStep hfair hproper ?_ ?_ ?_ ?_
  · rintro s _ ⟨hsyncs, hstart⟩
    rw [callerStep_startSyncs hsyncs, if_pos hstart]
  · rintro s ⟨hsyncs, -⟩ hidle
    cases hidle.symm.trans hsyncs
  · rintro s ⟨hsyncs, hstart⟩
    refine ⟨(nmea_frame s).1.trans hsyncs, ?_⟩
    unfold nmea
    split_ifs
    · exact hstart
    · rfl
  · exact fun s h => h

lemma mayStart_leads : t.LeadsTo MayStart fun s => s.caller = .startSyncs ∨ s.caller = .idle := by
  refine leadsTo_of_callerStep hfair hproper ?_ ?_ ?_ ?_
  · rintro s _ ⟨⟨sent, hwaits⟩, hflag⟩
    rw [callerStep_startWaits hwaits hflag]
    cases sent with
    | true => exact .inl rfl
    | false => exact .inr rfl
  · rintro s ⟨⟨sent, hwaits⟩, -⟩ hidle
    cases hidle.symm.trans hwaits
  · rintro s ⟨⟨sent, hwaits⟩, hflag⟩
    exact ⟨⟨sent, (nmea_frame s).1.trans hwaits⟩, (nmea_frame s).2.1.trans hflag⟩
  · exact fun s h => ⟨h.1, rfl⟩

lemma waitsForDie_leads : t.LeadsTo WaitsForDie MayStart := by
  have hhelp : ∀ n, (t.state n).WaitsForDie → t.act n = .mnlDie → (t.state (n + 1)).MayStart := by
    intro n h ha
    rw [state_mnlDie ha]
    exact ⟨h.1, rfl⟩
  refine Trace.ensures (A := (· = .mnlDie)) ?_ hhelp fun n h =>
    hfair.stops n (h.stopsOut_pos (phase_of_meets hproper n))
  intro n h
  obtain ⟨⟨sent, hwaits⟩, hflag⟩ := h
  have hbusy : (t.state n).caller ≠ .idle := fun hidle => by cases hidle.symm.trans hwaits
  by_cases ha : t.act n = .callerSteps
  · left
    rw [state_callerSteps ha, callerStep_startWaits_blocked hwaits hflag]
    exact ⟨⟨sent, hwaits⟩, hflag⟩
  · rcases (caller_stays hbusy ha (t.step_eq n)).2 with ⟨-, heq⟩ | ⟨hdie, -⟩
    · left
      rw [heq]
      exact ⟨⟨sent, (nmea_frame _).1.trans hwaits⟩, (nmea_frame _).2.1.trans hflag⟩
    · exact .inr (hhelp n ⟨⟨sent, hwaits⟩, hflag⟩ hdie)

lemma waitsForNmea_leads : t.LeadsTo WaitsForNmea MayReport := by
  have hhelp : ∀ n, (t.state n).WaitsForNmea → t.act n = .nmea → (t.state (n + 1)).MayReport := by
    intro n h ha
    obtain ⟨-, -, hlock⟩ := h.starting (phase_of_meets hproper n)
    rw [state_nmea ha]
    exact ⟨(nmea_frame _).1.trans h.1, hlock.nmea.2⟩
  refine Trace.ensures (A := (· = .nmea)) ?_ hhelp fun n h =>
    hfair.starts n (h.starting (phase_of_meets hproper n)).1
  intro n h
  have hbusy : (t.state n).caller ≠ .idle := fun hidle => by cases hidle.symm.trans h.1
  by_cases ha : t.act n = .callerSteps
  · left
    rw [state_callerSteps ha, callerStep_startSyncs h.1, if_neg (Bool.eq_false_iff.mp h.2)]
    exact h
  · rcases (caller_stays hbusy ha (t.step_eq n)).2 with ⟨hnmea, -⟩ | ⟨hdie, -⟩
    · exact .inr (hhelp n h hnmea)
    · -- `mnld` has not been told to stop
      have hpos : 0 < (t.state n).stopsOut := by
        have hcondition := hproper n
        rwa [hdie] at hcondition
      have hout := (h.starting (phase_of_meets hproper n)).2.1
      omega

lemma sync_returns : t.LeadsTo (fun s => s.caller = .startSyncs) fun s => s.caller = .idle := by
  have hreport : t.LeadsTo (fun s => s.caller = .startSyncs) MayReport := by
    intro n hsyncs
    cases hstart : (t.state n).mStart with
    | true => exact ⟨n, Nat.le_refl n, hsyncs, hstart⟩
    | false => exact waitsForNmea_leads hfair hproper n ⟨hsyncs, hstart⟩
  exact (hreport.trans (mayReport_leads hfair hproper)).trans (report_returns hfair hproper)

lemma mayStart_returns : t.LeadsTo MayStart fun s => s.caller = .idle := by
  intro n h
  obtain ⟨m, hnm, hsyncs | hidle⟩ := mayStart_leads hfair hproper n h
  · obtain ⟨k, hmk, hidle⟩ := sync_returns hfair hproper m hsyncs
    exact ⟨k, Nat.le_trans hnm hmk, hidle⟩
  · exact ⟨m, hnm, hidle⟩

end Progress

/-- **Every call returns** along a fair execution in which starts and stops take turns. -/
theorem calls_return (t : Trace step init) (hfair : Fair t) (hproper : t.Meets Proper) : Returns t := by
  intro n _
  cases hcaller : (t.state n).caller with
  | idle => exact ⟨n, Nat.le_refl n, hcaller⟩
  | startWaits sent =>
    cases hflag : (t.state n).startFlag with
    | true =>
      have hleads := (waitsForDie_leads hfair hproper).trans (mayStart_returns hfair hproper)
      exact hleads n ⟨⟨sent, hcaller⟩, hflag⟩
    | false => exact mayStart_returns hfair hproper n ⟨⟨sent, hcaller⟩, hflag⟩
  | startSyncs => exact sync_returns hfair hproper n hcaller
  | startReports => exact report_returns hfair hproper n hcaller
  | stopWaits sent => exact stop_returns hfair hproper n ⟨sent, hcaller⟩

/-- A start, a stop once it is answered, and a second start that waits a round for the answer to the stop. -/
def restarted : Trace step init where
  state
    | 0 => init
    | 1 => { init with caller := .startWaits true }
    | 2 => { init with caller := .startSyncs, startsOut := 1, running := true }
    | 3 => { init with caller := .startSyncs, mStart := true, flagUnlock := true, running := true }
    | 4 => { init with caller := .startReports, flagUnlock := true, running := true }
    | 5 => { init with startFlag := true, flagUnlock := true, running := true }
    | 6 => { init with caller := .stopWaits true, startFlag := true, flagUnlock := true, running := true }
    | 7 => { init with startFlag := true, flagUnlock := true, stopsOut := 1 }
    | 8 | 9 => { init with caller := .startWaits true, startFlag := true, flagUnlock := true, stopsOut := 1 }
    | 10 => { init with caller := .startWaits true, mStop := true }
    | 11 => { init with caller := .startSyncs, mStop := true, startsOut := 1, running := true }
    | 12 => { init with caller := .startSyncs, mStop := true, mStart := true, flagUnlock := true, running := true }
    | 13 => { init with caller := .startReports, mStop := true, flagUnlock := true, running := true }
    | _ + 14 => { init with startFlag := true, flagUnlock := true, running := true }
  act
    | 0 | 7 => .start true
    | 2 | 11 => .nmea
    | 5 => .stop true
    | 9 => .mnlDie
    | _ => .callerSteps
  state_zero := rfl
  step_eq
    | 0 | 1 | 2 | 3 | 4 | 5 | 6 | 7 | 8 | 9 | 10 | 11 | 12 | 13 => rfl
    | _ + 14 => rfl

theorem fair_restarted : Fair restarted where
  caller n := ⟨n + 14, Nat.le_add_right n 14, rfl⟩
  starts
    | 2, _ => ⟨2, Nat.le_refl 2, rfl⟩
    | 11, _ => ⟨11, Nat.le_refl 11, rfl⟩
    | 0, h | 1, h | 3, h | 4, h | 5, h | 6, h | 7, h | 8, h | 9, h | 10, h | 12, h | 13, h | _ + 14, h =>
      absurd h (Nat.lt_irrefl 0)
  stops
    | 7, _ | 8, _ | 9, _ => ⟨9, by decide, rfl⟩
    | 0, h | 1, h | 2, h | 3, h | 4, h | 5, h | 6, h | 10, h | 11, h | 12, h | 13, h | _ + 14, h =>
      absurd h (Nat.lt_irrefl 0)

theorem proper_restarted : restarted.Meets Proper
  | 0 | 5 | 7 => rfl
  | 9 => Nat.one_pos
  | 1 | 2 | 3 | 4 | 6 | 8 | 10 | 11 | 12 | 13 | _ + 14 => trivial

theorem calls_return_restarted : Fair restarted ∧ restarted.Meets Proper ∧ Returns restarted :=
  ⟨fair_restarted, proper_restarted, calls_return restarted fair_restarted proper_restarted⟩

/-! ## Calls that do not return -/

/-- **A stop that finds the flag cleared** waits for ever: only a start sets it. -/
theorem stop_waits_forever {t : Trace step init} {n : ℕ} (hwaits : (t.state n).caller = .stopWaits sent)
    (hflag : (t.state n).startFlag = false) :
    ∀ k, (t.state (n + k)).caller = .stopWaits sent ∧ (t.state (n + k)).startFlag = false := by
  refine Trace.lasts (P := fun s : Session => s.caller = .stopWaits sent ∧ s.startFlag = false) ?_ ⟨hwaits, hflag⟩
  rintro m ⟨hcaller, hclear⟩
  have hbusy : (t.state m).caller ≠ .idle := fun hidle => by cases hidle.symm.trans hcaller
  by_cases ha : t.act m = .callerSteps
  · rw [state_callerSteps ha, callerStep_stopWaits_blocked hcaller hclear]
    exact ⟨hcaller, hclear⟩
  · obtain ⟨hsame, ⟨-, heq⟩ | ⟨-, heq⟩⟩ := caller_stays hbusy ha (t.step_eq m)
    · refine ⟨hsame.trans hcaller, ?_⟩
      rw [heq]
      exact (nmea_frame _).2.1.trans hclear
    · refine ⟨hsame.trans hcaller, ?_⟩
      rw [heq]
      rfl

/-- A stop that no start came before, and then nothing but rounds of waiting. -/
def stopFirst : Trace step init where
  state
    | 0 => init
    | _ + 1 => { init with caller := .stopWaits true }
  act
    | 0 => .stop true
    | _ + 1 => .callerSteps
  state_zero := rfl
  step_eq
    | 0 => rfl
    | _ + 1 => rfl

theorem fair_stopFirst : Fair stopFirst where
  caller n := ⟨n + 1, Nat.le_succ n, rfl⟩
  starts
    | 0, h => absurd h (Nat.lt_irrefl 0)
    | _ + 1, h => absurd h (Nat.lt_irrefl 0)
  stops
    | 0, h => absurd h (Nat.lt_irrefl 0)
    | _ + 1, h => absurd h (Nat.lt_irrefl 0)

/-- The stop does not return, and no command is left unanswered. -/
theorem stop_first_never_returns : Fair stopFirst ∧ ¬ Returns stopFirst := by
  refine ⟨fair_stopFirst, fun h => ?_⟩
  obtain ⟨m, hm, hidle⟩ := h 1 trivial
  obtain ⟨k, rfl⟩ := Nat.exists_eq_add_of_le hm
  have hwaits : (stopFirst.state 1).caller = .stopWaits true := rfl
  have hforever := (stop_waits_forever hwaits rfl k).1
  cases hidle.symm.trans hforever

end Session

end Hal
