import DeviceHal.Core.Machine
import DeviceHal.Core.Ring
import DeviceHal.Ril.Watch

/-!
# The event loop

`ril_event_loop` waits in `select`, moves the expired timers and the readable events to a pending
list, and calls them back one by one.  Timers and pending events are intrusive circular lists; a
callback, or another thread, may add and remove events between any two critical sections.

There are two machines with the same actions.

* `EventLoop` is the code: links between addresses, pointers walked to their end.
* `ListLoop` says what it is for: two lists of events.

`EventLoop.step_abs` connects them, so that everything about order and time is proved of lists.
An address below 3 is `NULL` or one of the two sentinels.  The log is a ghost: every
`ril_timer_add`, every clock reading of `processTimeouts` — one an iteration — and every timer
called back.
-/

namespace Hal

open List Option Function

/-- `NULL`, `&timer_list` and `&pending_list`. -/
abbrev nullEvent : ℕ := 0
abbrev timerList : ℕ := 1
abbrev pendingList : ℕ := 2

/-- Ghost: one `ril_timer_add`, with its deadline and the number of iterations that had read the
clock before. -/
structure TimerAdd where
  deadline : Timeval
  addedIter : ℕ

/-- Ghost: timer `id` is due, in iteration `iter`. -/
structure TimerDue where
  id : ℕ
  iter : ℕ
  deadline : Timeval

/-- Ghost: one timer called back, with the clock last read. -/
structure TimerFire extends TimerDue where
  clock : Timeval

/-- The history: the last clock reading, the timers added, the readings of the iterations, the
timers called back, and the number of iterations that have ended. -/
structure LoopLog where
  clock : Timeval
  adds : List TimerAdd
  readings : List Timeval
  fires : List TimerFire
  done : ℕ

/-- Where in its body the loop is.  `rfds` is the local copy, as `select` left it. -/
inductive LoopPhase where
  | top
  | selecting (ptv : Option Timeval)
  | selected (rfds : Finset ℤ)
  | timeoutsDone (rfds : Finset ℤ)
  | readiesDone
  | firing
  | returned
deriving DecidableEq

inductive SelectResult where
  | ready (rfds : Finset ℤ)
  | interrupted
  | failed

/-- What callbacks and other threads do, then the parts of the loop.  Where the code reads the clock
the action carries the reading. -/
inductive LoopAct where
  | rilEventSet (ev : ℕ) (fd : ℤ) (persist : Bool)
  | rilEventAdd (ev : ℕ)
  | rilEventDel (ev : ℕ)
  | rilTimerAdd (ev : ℕ) (tv now : Timeval)
  | calcNextTimeout (now : Timeval)
  | select (result : SelectResult)
  | processTimeouts (now : Timeval)
  | processReadReadies
  | firePending
  | fire

/-- `now` is a reading of a monotone clock, which begins at 0. -/
def LoopLog.Later (log : LoopLog) (now : Timeval) : Prop :=
  now.WellFormed ∧ 0 ≤ now.tvSec ∧ log.clock.micros ≤ now.micros

instance (log : LoopLog) (now : Timeval) : Decidable (log.Later now) :=
  inferInstanceAs (Decidable (_ ∧ _ ∧ _))

/-- What the callers of `ril_event_add` see to. -/
def WatchState.CanAdd (w : WatchState) (ev : ℕ) : Prop :=
  (w.event ev).initialised = true ∧ 0 ≤ (w.event ev).fd ∧ ¬ w.Watched ev
    ∧ ¬ w.FdWatched (w.event ev).fd ∧ ∃ i, w.watchTable i = none

instance (w : WatchState) (ev : ℕ) : Decidable (w.CanAdd ev) :=
  inferInstanceAs (Decidable (_ ∧ _ ∧ _ ∧ _ ∧ _))

/-- The event as `ril_timer_add` leaves it. -/
def WatchState.armTimer (w : WatchState) (ev : ℕ) (deadline : Timeval) (id : ℕ) : WatchState :=
  { w with
    event := update w.event ev
      { w.event ev with fd := -1, timeout := deadline, timerId := some id } }

/-- `calcNextTimeout`, given the first timer. -/
def WatchState.nextTimeout (w : WatchState) (first : Option ℕ) (now : Timeval) : Option Timeval :=
  first.map fun tev =>
    if now.timercmpLt (w.event tev).timeout then (w.event tev).timeout.timersub now else ⟨0, 0⟩

/-- `timercmp(&tev->timeout, t, <)`. -/
def WatchState.dueBefore (w : WatchState) (t : Timeval) (tev : ℕ) : Bool :=
  (w.event tev).timeout.timercmpLt t

/-- What a queued event is, if it is a timer. -/
def RilEvent.due (e : RilEvent) (iter : ℕ) : Option TimerDue :=
  e.timerId.map fun id => ⟨id, iter, e.timeout⟩

def LoopLog.fired (log : LoopLog) (e : RilEvent) : LoopLog :=
  { log with
    fires := log.fires
      ++ (e.due (log.readings.length - 1)).toList.map fun due => ⟨due, log.clock⟩ }

/-! ## The code -/

/-- The variables of `ril_event.cpp`, the loop's phase, `firePending`'s `ev`, and the number of
`addToList` calls so far, which bounds the length of any list. -/
structure EventLoop where
  watch : WatchState
  links : Links ℕ
  phase : LoopPhase
  cursor : ℕ
  inserts : ℕ
  log : LoopLog

namespace EventLoop

/-- `ril_event_init`.  Memory that is no initialised event holds anything. -/
def init (event : ℕ → RilEvent) (links : Links ℕ) (clock : Timeval) : EventLoop where
  watch :=
    { event := fun ev => { event ev with initialised := false }
      watchTable := fun _ => none
      readFds := ∅
      nfds := 0 }
  links :=
    { next := update (update links.next timerList timerList) pendingList pendingList
      prev := update (update links.prev timerList timerList) pendingList pendingList }
  phase := .top
  cursor := nullEvent
  inserts := 0
  log := ⟨clock, [], [], [], 0⟩

def addToList (s : EventLoop) (ev list : ℕ) : EventLoop :=
  { s with links := s.links.insertBefore ev list, inserts := s.inserts + 1 }

def removeFromList (s : EventLoop) (ev : ℕ) : EventLoop :=
  { s with links := s.links.unlink nullEvent ev }

/-- The events on the timer list and on the pending list. -/
def timers (s : EventLoop) : List ℕ := s.links.nodes timerList s.inserts
def pending (s : EventLoop) : List ℕ := s.links.nodes pendingList s.inserts

/-- "keep list sorted": the place for a timer with the given deadline. -/
def findPlace (s : EventLoop) (deadline : Timeval) : ℕ → ℕ → ℕ
  | 0, list => list
  | fuel + 1, list =>
    if s.watch.dueBefore deadline list ∧ list ≠ timerList then
      s.findPlace deadline fuel (s.links.next list)
    else list

def rilTimerAdd (s : EventLoop) (ev : ℕ) (tv now : Timeval) : EventLoop :=
  let deadline := now.timeradd tv
  let s := { s with
    watch := s.watch.armTimer ev deadline s.log.adds.length
    log := { s.log with
      clock := now
      adds := s.log.adds ++ [TimerAdd.mk deadline s.log.readings.length] } }
  s.addToList ev (s.findPlace deadline s.inserts (s.links.next timerList))

def expire (now : Timeval) : ℕ → EventLoop → ℕ → EventLoop
  | 0, s, _ => s
  | fuel + 1, s, tev =>
    if tev ≠ timerList ∧ s.watch.dueBefore now tev then
      let next := s.links.next tev
      expire now fuel ((s.removeFromList tev).addToList tev pendingList) next
    else s

def processTimeouts (s : EventLoop) (now : Timeval) : EventLoop :=
  let s := { s with
    log := { s.log with clock := now, readings := s.log.readings ++ [now] } }
  expire now s.inserts s (s.links.next timerList)

def readReadies (rfds : Finset ℤ) : List (Fin maxFdEvents) → ℕ → EventLoop → EventLoop
  | [], _, s => s
  | i :: is, n, s =>
    if n = 0 then s
    else
      match s.watch.readyAt rfds i with
      | none => readReadies rfds is n s
      | some rev =>
        let s := s.addToList rev pendingList
        let s :=
          if (s.watch.event rev).persist = false then
            { s with watch := s.watch.removeWatch rev i }
          else s
        readReadies rfds is (n - 1) s

/-- `processReadReadies`, with the count `select` returned. -/
def processReadReadies (s : EventLoop) (rfds : Finset ℤ) : EventLoop :=
  readReadies rfds (List.finRange maxFdEvents) rfds.card s

/-- One action, under what its caller has to see to: an event that is set, or armed as a timer, is
in use neither as a timer nor as a watched event. -/
def step (s : EventLoop) : LoopAct → Option EventLoop
  | .rilEventSet ev fd persist =>
    if 3 ≤ ev ∧ ev ∉ s.timers ∧ ev ∉ s.pending ∧ ¬ s.watch.Watched ev then
      some { s with
        watch := s.watch.rilEventSet ev fd persist
        links := ⟨update s.links.next ev nullEvent,
          update s.links.prev ev nullEvent⟩ }
    else none
  | .rilEventAdd ev =>
    if s.watch.CanAdd ev then some { s with watch := s.watch.rilEventAdd ev } else none
  | .rilEventDel ev =>
    if (s.watch.event ev).initialised then some { s with watch := s.watch.rilEventDel ev } else none
  | .rilTimerAdd ev tv now =>
    if (s.watch.event ev).initialised ∧ ev ∉ s.timers ∧ ev ∉ s.pending ∧ ¬ s.watch.Watched ev
        ∧ tv.WellFormed ∧ (now.timeradd tv).Fits ∧ s.log.Later now then
      some (s.rilTimerAdd ev tv now)
    else none
  | .calcNextTimeout now =>
    if s.phase = .top ∧ s.log.Later now then
      let tev := s.links.next timerList
      some { s with
        phase := .selecting (s.watch.nextTimeout (if tev = timerList then none else some tev) now)
        log := { s.log with clock := now } }
    else none
  | .select result =>
    match s.phase, result with
    | .selecting _, .ready rfds => some { s with phase := .selected rfds }
    | .selecting _, .interrupted => some { s with phase := .top }
    | .selecting _, .failed => some { s with phase := .returned }
    | _, _ => none
  | .processTimeouts now =>
    match s.phase with
    | .selected rfds =>
      if s.log.Later now then some { s.processTimeouts now with phase := .timeoutsDone rfds }
      else none
    | _ => none
  | .processReadReadies =>
    match s.phase with
    | .timeoutsDone rfds => some { s.processReadReadies rfds with phase := .readiesDone }
    | _ => none
  | .firePending =>
    match s.phase with
    | .readiesDone => some { s with phase := .firing, cursor := s.links.next pendingList }
    | _ => none
  | .fire =>
    match s.phase with
    | .firing =>
      if s.cursor = pendingList then
        some { s with phase := .top, log := { s.log with done := s.log.readings.length } }
      else
        let next := s.links.next s.cursor
        some { s.removeFromList s.cursor with
          cursor := next
          log := s.log.fired (s.watch.event s.cursor) }
    | _ => none

end EventLoop

/-! ## What it is for -/

/-- Two lists of events: the timers by deadline, and what is about to be called back. -/
structure ListLoop where
  watch : WatchState
  timers : List ℕ
  pending : List ℕ
  phase : LoopPhase
  log : LoopLog

namespace ListLoop

def init (event : ℕ → RilEvent) (clock : Timeval) : ListLoop where
  watch := (EventLoop.init event ⟨fun _ => 0, fun _ => 0⟩ clock).watch
  timers := []
  pending := []
  phase := .top
  log := ⟨clock, [], [], [], 0⟩

/-- A timer goes before the first one that is not earlier. -/
def rilTimerAdd (a : ListLoop) (ev : ℕ) (tv now : Timeval) : ListLoop :=
  let deadline := now.timeradd tv
  let earlier := a.watch.dueBefore deadline
  { a with
    watch := a.watch.armTimer ev deadline a.log.adds.length
    timers := a.timers.takeWhile earlier ++ ev :: a.timers.dropWhile earlier
    log := { a.log with
      clock := now
      adds := a.log.adds ++ [TimerAdd.mk deadline a.log.readings.length] } }

def processTimeouts (a : ListLoop) (now : Timeval) : ListLoop :=
  let expired := a.watch.dueBefore now
  { a with
    timers := a.timers.dropWhile expired
    pending := a.pending ++ a.timers.takeWhile expired
    log := { a.log with clock := now, readings := a.log.readings ++ [now] } }

def processReadReadies (a : ListLoop) (rfds : Finset ℤ) : ListLoop :=
  let scan := a.watch.readyScan rfds (List.finRange maxFdEvents) rfds.card
  { a with watch := scan.2, pending := a.pending ++ scan.1 }

/-- One action, with what its caller has seen to. -/
inductive Step (a : ListLoop) : LoopAct → ListLoop → Prop
  | rilEventSet {ev : ℕ} {fd : ℤ} {persist : Bool} (haddr : 3 ≤ ev) (hev : ev ∉ a.timers ++ a.pending)
      (hwatched : ¬ a.watch.Watched ev) :
      Step a (.rilEventSet ev fd persist) { a with watch := a.watch.rilEventSet ev fd persist }
  | rilEventAdd {ev : ℕ} (hadd : a.watch.CanAdd ev) :
      Step a (.rilEventAdd ev) { a with watch := a.watch.rilEventAdd ev }
  | rilEventDel {ev : ℕ} (hinit : (a.watch.event ev).initialised = true) :
      Step a (.rilEventDel ev) { a with watch := a.watch.rilEventDel ev }
  | rilTimerAdd {ev : ℕ} {tv now : Timeval} (hinit : (a.watch.event ev).initialised = true)
      (hev : ev ∉ a.timers ++ a.pending) (hwatched : ¬ a.watch.Watched ev) (htv : tv.WellFormed)
      (hfits : (now.timeradd tv).Fits) (hnow : a.log.Later now) : Step a (.rilTimerAdd ev tv now) (a.rilTimerAdd ev tv now)
  | calcNextTimeout {now : Timeval} (hphase : a.phase = .top) (hnow : a.log.Later now) :
      Step a (.calcNextTimeout now) { a with
        phase := .selecting (a.watch.nextTimeout a.timers.head? now)
        log := { a.log with clock := now } }
  | ready {ptv : Option Timeval} {rfds : Finset ℤ} (hphase : a.phase = .selecting ptv) :
      Step a (.select (.ready rfds)) { a with phase := .selected rfds }
  | interrupted {ptv : Option Timeval} (hphase : a.phase = .selecting ptv) :
      Step a (.select .interrupted) { a with phase := .top }
  | failed {ptv : Option Timeval} (hphase : a.phase = .selecting ptv) :
      Step a (.select .failed) { a with phase := .returned }
  | processTimeouts {rfds : Finset ℤ} {now : Timeval} (hphase : a.phase = .selected rfds)
      (hnow : a.log.Later now) :
      Step a (.processTimeouts now) { a.processTimeouts now with phase := .timeoutsDone rfds }
  | processReadReadies {rfds : Finset ℤ} (hphase : a.phase = .timeoutsDone rfds) :
      Step a .processReadReadies { a.processReadReadies rfds with phase := .readiesDone }
  | firePending (hphase : a.phase = .readiesDone) : Step a .firePending { a with phase := .firing }
  | fired (hphase : a.phase = .firing) (hnil : a.pending = []) :
      Step a .fire { a with phase := .top, log := { a.log with done := a.log.readings.length } }
  | fire {ev : ℕ} {rest : List ℕ} (hphase : a.phase = .firing) (hcons : a.pending = ev :: rest) :
      Step a .fire { a with pending := rest, log := a.log.fired (a.watch.event ev) }

/-! ## What the lists keep -/

/-- Listed events are initialised, distinct, and, on the timer list, timers; nothing is pending
before `processTimeouts`, and nothing but timers before `processReadReadies`. -/
structure Inv (a : ListLoop) : Prop where
  watch : a.watch.WatchInv
  address : ∀ ev, (a.watch.event ev).initialised = true → 3 ≤ ev
  nodup : (a.timers ++ a.pending).Nodup
  initialised : ∀ ev ∈ a.timers ++ a.pending, (a.watch.event ev).initialised = true
  timers_timer : ∀ ev ∈ a.timers, (a.watch.event ev).timerId ≠ none
  pending_nil : a.phase = .top ∨ (∃ ptv, a.phase = .selecting ptv) ∨ (∃ rfds, a.phase = .selected rfds)
    → a.pending = []
  pending_timer : ∀ rfds, a.phase = .timeoutsDone rfds →
    ∀ ev ∈ a.pending, (a.watch.event ev).timerId ≠ none

lemma init_inv (event : ℕ → RilEvent) (clock : Timeval) : (init event clock).Inv where
  watch :=
    { index_eq := by simp [init, EventLoop.init]
      slot_eq := by simp [init, EventLoop.init]
      watched := by simp [init, EventLoop.init]
      fd_inj := by simp [init, EventLoop.init]
      readFds_iff := by simp [init, EventLoop.init, WatchState.FdWatched]
      nfds_gt := by simp [init, EventLoop.init]
      not_timer := by simp [init, EventLoop.init] }
  address := by simp [init, EventLoop.init]
  nodup := by simp [init]
  initialised := by simp [init]
  timers_timer := by simp [init]
  pending_nil := by simp [init]
  pending_timer := by simp [init]

variable {a : ListLoop} {ev : ℕ}

lemma Inv.not_watched (h : a.Inv) (htimer : (a.watch.event ev).timerId ≠ none) : ¬ a.watch.Watched ev := by
  rintro ⟨i, hi⟩
  rcases h.watch.watched i ev hi with ⟨hinit, hfd⟩
  exact htimer (h.watch.not_timer ev hinit hfd)

lemma Inv.of_sameEvents (h : a.Inv) {w : WatchState} (hw : w.WatchInv)
    (hsame : WatchState.SameEvents a.watch w) : ({ a with watch := w } : ListLoop).Inv where
  watch := hw
  address ev hev := h.address ev ((hsame.initialised_eq ev).symm.trans hev)
  nodup := h.nodup
  initialised ev hev := (hsame.initialised_eq ev).trans (h.initialised ev hev)
  timers_timer ev hev := by
    rw [hsame.timerId_eq ev]
    exact h.timers_timer ev hev
  pending_nil := h.pending_nil
  pending_timer rfds hphase ev hev := by
    rw [hsame.timerId_eq ev]
    exact h.pending_timer rfds hphase ev hev

lemma Inv.of_update (h : a.Inv) (hev : ev ∉ a.timers ++ a.pending) {e : RilEvent} (haddr : 3 ≤ ev)
    (hw : ({ a.watch with event := update a.watch.event ev e } : WatchState).WatchInv) :
    ({ a with watch := { a.watch with event := update a.watch.event ev e } } :
      ListLoop).Inv := by
  have hkeep : ∀ ev' ∈ a.timers ++ a.pending,
      update a.watch.event ev e ev' = a.watch.event ev' := by
    intro ev' hmem
    refine update_of_ne ?_ e a.watch.event
    rintro rfl
    exact hev hmem
  refine ⟨hw, fun ev' hinit => ?_, h.nodup, fun ev' hmem => ?_, fun ev' hmem => ?_, h.pending_nil,
    fun rfds hphase ev' hmem => ?_⟩
  · dsimp only at hinit
    by_cases heq : ev' = ev
    · rw [heq]
      exact haddr
    · rw [update_of_ne heq] at hinit
      exact h.address ev' hinit
  · dsimp only
    rw [hkeep ev' hmem]
    exact h.initialised ev' hmem
  · dsimp only
    rw [hkeep ev' (mem_append_left _ hmem)]
    exact h.timers_timer ev' hmem
  · dsimp only
    rw [hkeep ev' (mem_append_right _ hmem)]
    exact h.pending_timer rfds hphase ev' hmem

lemma Inv.armTimer (h : a.Inv) (hinit : (a.watch.event ev).initialised = true)
    (hev : ev ∉ a.timers ++ a.pending) (hwatched : ¬ a.watch.Watched ev) (deadline : Timeval)
    (id : ℕ) : ({ a with watch := a.watch.armTimer ev deadline id } : ListLoop).Inv := by
  refine h.of_update hev (h.address ev hinit) (h.watch.update_event hwatched (fun i hi => ?_) ?_)
  · exact hwatched ⟨i, h.watch.slot_eq i ev hinit hi⟩
  · intro hfd
    dsimp only at hfd
    omega

lemma insert_perm {β : Type*} (p : β → Bool) (x : β) (l : List β) :
    (l.takeWhile p ++ x :: l.dropWhile p).Perm (x :: l) := by
  refine perm_middle.trans (List.Perm.cons x ?_)
  rw [takeWhile_append_dropWhile]

lemma Inv.rilTimerAdd (h : a.Inv) {tv now : Timeval}
    (hinit : (a.watch.event ev).initialised = true) (hev : ev ∉ a.timers ++ a.pending)
    (hwatched : ¬ a.watch.Watched ev) : (a.rilTimerAdd ev tv now).Inv := by
  have harm := h.armTimer hinit hev hwatched (now.timeradd tv) a.log.adds.length
  have hperm := insert_perm (a.watch.dueBefore (now.timeradd tv)) ev a.timers
  have harmed : ((a.watch.armTimer ev (now.timeradd tv) a.log.adds.length).event ev).initialised = true
      ∧ ((a.watch.armTimer ev (now.timeradd tv) a.log.adds.length).event ev).timerId ≠ none := by
    simp [WatchState.armTimer, hinit]
  refine ⟨harm.watch, harm.address, ?_, fun ev' hmem => ?_, fun ev' hmem => ?_, harm.pending_nil,
    harm.pending_timer⟩
  · have hnodup : (ev :: (a.timers ++ a.pending)).Nodup := nodup_cons.mpr ⟨hev, h.nodup⟩
    exact ((hperm.append_right a.pending).nodup_iff).mpr hnodup
  · have hmem' : ev' ∈ ev :: (a.timers ++ a.pending) := (hperm.append_right a.pending).mem_iff.mp hmem
    rcases mem_cons.mp hmem' with rfl | hold
    · exact harmed.1
    · exact harm.initialised ev' hold
  · rcases mem_cons.mp (hperm.mem_iff.mp hmem) with rfl | hold
    · exact harmed.2
    · exact harm.timers_timer ev' hold

lemma Inv.processTimeouts (h : a.Inv) {rfds : Finset ℤ} (hphase : a.phase = .selected rfds) (now : Timeval) :
    ({ a.processTimeouts now with phase := .timeoutsDone rfds } : ListLoop).Inv := by
  have hnil := h.pending_nil (.inr (.inr ⟨rfds, hphase⟩))
  have hinit := h.initialised
  have hnodup := h.nodup
  rw [hnil, append_nil] at hinit hnodup
  have hperm : ∀ p : ℕ → Bool, (a.timers.dropWhile p ++ a.timers.takeWhile p).Perm a.timers := by
    intro p
    refine perm_append_comm.trans ?_
    rw [takeWhile_append_dropWhile]
  simp only [ListLoop.processTimeouts, hnil, nil_append]
  refine ⟨h.watch, h.address, ((hperm _).nodup_iff).mpr hnodup, fun ev hmem => ?_, fun ev hmem => ?_,
    by simp, fun _ _ ev hmem => ?_⟩
  · exact hinit ev ((hperm _).mem_iff.mp hmem)
  · exact h.timers_timer ev ((dropWhile_sublist _).subset hmem)
  · exact h.timers_timer ev ((takeWhile_sublist _).subset hmem)

lemma Inv.processReadReadies (h : a.Inv) {rfds : Finset ℤ} (hphase : a.phase = .timeoutsDone rfds) :
    ({ a.processReadReadies rfds with phase := .readiesDone } : ListLoop).Inv := by
  have hscan := WatchState.readyScan_spec h.watch rfds
  rcases hscan.queued h.watch with ⟨hnodup, hqueued⟩
  have hsame := h.of_sameEvents hscan.inv hscan.same
  -- what is queued is watched, what was listed is a timer
  have hfresh : ∀ ev ∈ a.timers ++ a.pending,
      ev ∉ (a.watch.readyScan rfds (List.finRange maxFdEvents) rfds.card).1 := by
    intro ev hmem hq
    have htimer : (a.watch.event ev).timerId ≠ none := by
      rcases mem_append.mp hmem with hmem | hmem
      · exact h.timers_timer ev hmem
      · exact h.pending_timer rfds hphase ev hmem
    exact h.not_watched htimer ((hqueued ev).mp hq).1
  refine ⟨hscan.inv, hsame.address, ?_, fun ev hmem => ?_, hsame.timers_timer, by simp, by simp⟩
  · show (a.timers ++ (a.pending ++ _)).Nodup
    rw [← append_assoc, nodup_append]
    refine ⟨h.nodup, hnodup, ?_⟩
    rintro ev hmem _ hq rfl
    exact hfresh ev hmem hq
  · have hmem : ev ∈ a.timers ++ (a.pending ++ _) := hmem
    rw [← append_assoc] at hmem
    rcases mem_append.mp hmem with hmem | hq
    · exact hsame.initialised ev hmem
    · rcases ((hqueued ev).mp hq).1 with ⟨i, hi⟩
      exact (hscan.same.initialised_eq ev).trans (h.watch.watched i ev hi).1

lemma Inv.of_phase (h : a.Inv) {phase : LoopPhase} (log : LoopLog) (hphase : ∀ rfds, phase ≠ .timeoutsDone rfds)
    (hnil : phase = .top ∨ (∃ ptv, phase = .selecting ptv) ∨ (∃ rfds, phase = .selected rfds) →
      a.pending = []) : ({ a with phase := phase, log := log } : ListLoop).Inv :=
  ⟨h.watch, h.address, h.nodup, h.initialised, h.timers_timer, hnil,
    fun rfds hr => absurd hr (hphase rfds)⟩

lemma Inv.fire (h : a.Inv) {rest : List ℕ} (hphase : a.phase = .firing)
    (hcons : a.pending = ev :: rest) (log : LoopLog) : ({ a with pending := rest, log := log } : ListLoop).Inv := by
  have hsub : (a.timers ++ rest).Sublist (a.timers ++ a.pending) := by
    rw [hcons]
    exact List.Sublist.append_left (sublist_cons_self ev rest) a.timers
  refine ⟨h.watch, h.address, h.nodup.sublist hsub, fun ev' hmem => ?_, h.timers_timer, ?_, ?_⟩
  · exact h.initialised ev' (hsub.subset hmem)
  · simp [hphase]
  · simp [hphase]

/-- **One step of the lists.** -/
lemma Step.inv {a' : ListLoop} {act : LoopAct} (hstep : Step a act a') (h : a.Inv) : a'.Inv := by
  cases hstep with
  | rilEventSet haddr hev hwatched => exact h.of_update hev haddr (h.watch.rilEventSet hwatched _ _)
  | rilEventAdd hadd =>
    rcases hadd with ⟨hinit, hfd, hwatched, hfree, hroom⟩
    have hadd := h.watch.rilEventAdd hwatched hinit hfd hfree hroom
    exact h.of_sameEvents hadd.1 hadd.2
  | rilEventDel hinit =>
    have hdel := h.watch.rilEventDel hinit
    exact h.of_sameEvents hdel.1 hdel.2.1
  | rilTimerAdd hinit hev hwatched htv hfits hnow => exact h.rilTimerAdd hinit hev hwatched
  | calcNextTimeout hphase hnow =>
    exact h.of_phase _ (by simp) fun _ => h.pending_nil (.inl hphase)
  | ready hphase | interrupted hphase =>
    exact h.of_phase _ (by simp) fun _ => h.pending_nil (.inr (.inl ⟨_, hphase⟩))
  | failed | firePending => exact h.of_phase _ (by simp) (by simp)
  | processTimeouts hphase hnow => exact h.processTimeouts hphase _
  | processReadReadies hphase => exact h.processReadReadies hphase
  | fired hphase hnil => exact h.of_phase _ (by simp) fun _ => hnil
  | fire hphase hcons => exact h.fire hphase hcons _

end ListLoop

end Hal
