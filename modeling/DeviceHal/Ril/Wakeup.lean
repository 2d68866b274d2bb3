import Mathlib.Logic.Function.Basic
import DeviceHal.Core.Machine

/-!
# Waking the event loop

`ril_event_loop` copies the descriptors it has to watch, looks for the next timer, and sleeps in `select`.  A thread
that adds an event or a timer meanwhile writes a byte to a pipe that `select` watches; `processWakeupCallback` empties
the pipe, and the next round copies anew.  Nothing of this is under one lock, and `RIL_startEventLoop` lets other
threads go on before the pipe is there.

* `WakeupState` — the loop by where it is, any number of other threads by whether they have still to write.
* `Inv` — the loop has copied all there was to copy so far, or a byte is in the pipe or on its way.
* **`stale_select_woken`** — so no wake-up is lost: a `select` that lacks an event which was added is woken.
-/

namespace Hal

open List Option Function

/-- What `ril_event_add` and `ril_timer_add` add. -/
inductive LoopEvent where
  | watch (ev : ℕ)
  | timer (ev : ℕ)
deriving DecidableEq

/-- Where the thread of `eventLoop` is: before its call of `pipe`, at the top of the loop, behind the copy of the
descriptors, in `select`, or behind it, `wake` being whether the pipe was readable. -/
inductive DispatchPhase where
  | starting
  | top
  | copied (known : List LoopEvent)
  | selecting (known : List LoopEvent)
  | handling (wake : Bool)
deriving DecidableEq

/-- What was added, which threads are between `ril_event_add` or `ril_timer_add` and `triggerEvLoop`, and the number of
bytes in the pipe. -/
structure WakeupState (τ : Type*) where
  phase : DispatchPhase
  added : List LoopEvent
  adding : τ → Bool
  pipe : ℕ

/-- What other threads do, then what the loop does.  In its callbacks `triggerEvLoop` does nothing: `addOwn`. -/
inductive WakeupAct (τ : Type*) where
  | add (t : τ) (ev : LoopEvent)
  | triggerEvLoop (t : τ)
  | pipeCreated
  | copyFds
  | calcNextTimeout
  | select (interrupted : Bool)
  | addOwn (ev : LoopEvent)
  | processWakeupCallback
  | firedPending

def LoopEvent.isTimer : LoopEvent → Bool
  | .watch _ => false
  | .timer _ => true

namespace WakeupState

variable {τ : Type*}

def start : WakeupState τ := ⟨.starting, [], fun _ => false, 0⟩

/-- The pipe after the `write` of `triggerEvLoop`.  Before it is there `s_fdWakeupWrite` is 0, another file. -/
def written (s : WakeupState τ) : ℕ := if s.phase = .starting then s.pipe else s.pipe + 1

def step [DecidableEq τ] (s : WakeupState τ) : WakeupAct τ → Option (WakeupState τ)
  | .add t ev =>
    if s.adding t = false then some { s with added := s.added ++ [ev], adding := update s.adding t true } else none
  | .triggerEvLoop t =>
    if s.adding t = true then some { s with adding := update s.adding t false, pipe := s.written } else none
  | .pipeCreated => if s.phase = .starting then some { s with phase := .top } else none
  | .copyFds =>
    if s.phase = .top then some { s with phase := .copied (s.added.filter fun ev => !ev.isTimer) } else none
  | .calcNextTimeout =>
    match s.phase with
    | .copied known => some { s with phase := .selecting (known ++ s.added.filter LoopEvent.isTimer) }
    | _ => none
  | .select interrupted =>
    match s.phase with
    | .selecting _ => some { s with phase := if interrupted then .top else .handling (0 < s.pipe) }
    | _ => none
  | .addOwn ev =>
    match s.phase with
    | .handling _ => some { s with added := s.added ++ [ev] }
    | _ => none
  | .processWakeupCallback =>
    if s.phase = .handling true then some { s with phase := .handling false, pipe := 0 } else none
  | .firedPending => if s.phase = .handling false then some { s with phase := .top } else none

variable {s s' : WakeupState τ} {a : WakeupAct τ}

/-- A byte is in the pipe, or a thread has still to write one. -/
def Woken (s : WakeupState τ) : Prop := 0 < s.pipe ∨ ∃ t, s.adding t = true

/-- What the loop has copied is all there is to copy so far, or it will be woken. -/
structure Inv (s : WakeupState τ) : Prop where
  copied : ∀ known, s.phase = .copied known → (∀ ev ∈ s.added, ev.isTimer = false → ev ∈ known) ∨ s.Woken
  selecting : ∀ known, s.phase = .selecting known → (∀ ev ∈ s.added, ev ∈ known) ∨ s.Woken

lemma Inv.of_woken (h : s.Woken) : s.Inv := ⟨fun _ _ => .inr h, fun _ _ => .inr h⟩

lemma inv_start : (start : WakeupState τ).Inv := ⟨nofun, nofun⟩

/-- Where nothing is copied there is nothing to say. -/
lemma Inv.of_phase (hcopied : ∀ known, s.phase ≠ .copied known) (hselecting : ∀ known, s.phase ≠ .selecting known) :
    s.Inv :=
  ⟨fun known h => absurd h (hcopied known), fun known h => absurd h (hselecting known)⟩

variable [DecidableEq τ]

lemma Inv.step (h : s.Inv) (hstep : s.step a = some s') : s'.Inv := by
  cases a with
  | add t ev =>
    obtain ⟨-, rfl⟩ := ite_some_none_eq_some.mp hstep
    exact .of_woken (.inr ⟨t, update_self t true s.adding⟩)
  | triggerEvLoop t =>
    obtain ⟨-, rfl⟩ := ite_some_none_eq_some.mp hstep
    by_cases hphase : s.phase = .starting
    · exact .of_phase (by simp [hphase]) (by simp [hphase])
    · exact .of_woken (.inl (show 0 < s.written by simp [written, hphase]))
  | copyFds =>
    obtain ⟨-, rfl⟩ := ite_some_none_eq_some.mp hstep
    refine ⟨?_, nofun⟩
    rintro _ ⟨⟩
    exact .inl fun ev hev htimer => mem_filter.mpr ⟨hev, by simp [htimer]⟩
  | calcNextTimeout =>
    simp only [WakeupState.step] at hstep
    split at hstep
    · next known hphase =>
      cases hstep
      refine ⟨nofun, ?_⟩
      rintro _ ⟨⟩
      refine (h.copied known hphase).imp_left fun hknown ev hev => ?_
      cases htimer : ev.isTimer with
      | false => exact mem_append_left _ (hknown ev hev htimer)
      | true => exact mem_append_right _ (mem_filter.mpr ⟨hev, htimer⟩)
    · cases hstep
  | select interrupted =>
    simp only [WakeupState.step] at hstep
    split at hstep
    · cases hstep
      cases interrupted <;> exact .of_phase nofun nofun
    · cases hstep
  | addOwn ev =>
    simp only [WakeupState.step] at hstep
    split at hstep
    · next wake hphase =>
      cases hstep
      exact .of_phase (by simp [hphase]) (by simp [hphase])
    · cases hstep
  | pipeCreated | processWakeupCallback | firedPending =>
    obtain ⟨-, rfl⟩ := ite_some_none_eq_some.mp hstep
    exact .of_phase nofun nofun

/-- **A `select` that lacks an event is woken**, however the threads are interleaved: if the loop sleeps with a copy
older than something that was added, a byte is in the pipe or on its way, and once all threads have written `select`
returns with the pipe readable. -/
theorem stale_select_woken {acts : List (WakeupAct τ)} {known : List LoopEvent} (hrun : run step start acts = some s)
    (hphase : s.phase = .selecting known) (hstale : ∃ ev ∈ s.added, ev ∉ known) :
    s.Woken ∧ ((∀ t, s.adding t = false) → s.step (.select false) = some { s with phase := .handling true }) := by
  have hinv : s.Inv := run_invariant (fun _ _ _ h hs => h.step hs) inv_start hrun
  obtain ⟨ev, hadded, hnot⟩ := hstale
  have hwoken : s.Woken := (hinv.selecting known hphase).resolve_left fun hknown => hnot (hknown ev hadded)
  refine ⟨hwoken, fun hwritten => ?_⟩
  have hpipe : 0 < s.pipe := hwoken.resolve_right fun ⟨t, ht⟩ => by simp [hwritten t] at ht
  simp [WakeupState.step, hphase, hpipe]

/-- An event is added while the loop sleeps. -/
def addedAsleep : List (WakeupAct ℕ) :=
  [.pipeCreated, .copyFds, .calcNextTimeout, .add 1 (.watch 6), .triggerEvLoop 1]

theorem stale_select_woken_addedAsleep :
    ∃ s, run step start addedAsleep = some s ∧ s.phase = .selecting [] ∧ s.Woken := by
  obtain ⟨s, hrun, hphase, hadded⟩ : ∃ s, run step start addedAsleep = some s ∧ s.phase = .selecting []
      ∧ s.added = [.watch 6] := ⟨_, rfl, rfl, rfl⟩
  exact ⟨s, hrun, hphase, (stale_select_woken hrun hphase ⟨.watch 6, by simp [hadded], by simp⟩).1⟩

end WakeupState

end Hal
