import DeviceHal.Core.Machine
import DeviceHal.Ril.Types

/-!
# Callbacks of the client

A client gives the daemon its callback objects with `setResponseFunctions`.  When a call on them
fails the client is dead, and `checkReturnStatus` drops them.  It gives up the read lock and takes
the write lock for that, so a new client may have come in between; a counter, noted after the failed
call and compared under the write lock, is to tell.

A region under the lock is one step, and it is enabled at any time, also where the code would wait.
A call that is made under the read lock is one step together with the noting of the counter; the
region under the write lock is another.

Two paths reach the callbacks *without* the lock: `sendErrorResponse`, when a request is refused, and
`resendLastNITZTimeData`, when a client connects.  There the call begins in one step and returns in
another, and the counter noted is that of whatever is installed then.  But both run on a thread that
serves HIDL calls, as `setResponseFunctions` does, and `registerService` configures that pool with
one thread.  So no client can be replaced during such a call; what can happen is that a failed
response on another thread drops it first.

`changed_by_own_failure`: callbacks change only by `setResponseFunctions`, or are dropped for a
failed call on themselves.
-/

namespace Hal

open List Function

/-- The two services, each with callbacks and a counter per slot. -/
inductive RadioService where
  | radio
  | oemHook
deriving DecidableEq

/-- The response object and the indication object. -/
inductive CallbackKind where
  | response
  | indication
deriving DecidableEq

/-- The callback objects that a client installs together; each may be `NULL`. -/
structure Callbacks where
  response : Option ℕ
  indication : Option ℕ
deriving DecidableEq

def Callbacks.callee (callbacks : Callbacks) : CallbackKind → Option ℕ
  | .response => callbacks.response
  | .indication => callbacks.indication

/-- `configureRpcThreadpool(1, true /* callerWillJoin */)`. -/
def rpcThreadpoolSize : ℕ := 1

/-- A call in progress without the read lock; the callbacks it was made on are a ghost. -/
structure UnlockedCall where
  service : RadioService
  slot : Slot
  callbacks : Callbacks
deriving DecidableEq

/-- `checkReturnStatus` of a failed call, waiting for the write lock, with the counter it noted.  The
callbacks that the call was made on are a ghost. -/
structure FailedCall extends UnlockedCall where
  counter : ℤ
  locked : Bool
deriving DecidableEq

/-- The callbacks and counters, and the threads in the middle of a call. -/
structure CallbackState where
  callbacks : RadioService → Slot → Callbacks
  counter : RadioService → Slot → ℤ
  inFlight : List UnlockedCall
  failures : List FailedCall

/-- What can happen.  `isOk` is what the transport reports. -/
inductive CallbackAct where
  | setResponseFunctions (service : RadioService) (slot : Slot) (callbacks : Callbacks)
  | call (service : RadioService) (slot : Slot) (kind : CallbackKind) (isOk : Bool)
  | callUnlocked (service : RadioService) (slot : Slot) (kind : CallbackKind)
  | returnUnlocked (call : UnlockedCall) (isOk : Bool)
  | checkReturnStatus (failure : FailedCall)

namespace CallbackState

def init : CallbackState where
  callbacks _ _ := ⟨none, none⟩
  counter _ _ := 0
  inFlight := []
  failures := []

/-- New callbacks, or none, and the counter goes up. -/
def replace (s : CallbackState) (service : RadioService) (slot : Slot) (callbacks : Callbacks) : CallbackState :=
  { s with
    callbacks := update s.callbacks service
      (update (s.callbacks service) slot callbacks)
    counter := update s.counter service
      (update (s.counter service) slot (s.counter service slot + 1)) }

/-- `int32_t`: beyond that the increment has no defined result. -/
def CanCount (s : CallbackState) (service : RadioService) (slot : Slot) : Prop :=
  s.counter service slot < 2147483647

instance (s : CallbackState) (service : RadioService) (slot : Slot) :
    Decidable (s.CanCount service slot) :=
  inferInstanceAs (Decidable (_ < _))

/-- The threads of the pool that are in the middle of a HIDL call. -/
def rpcBusy (s : CallbackState) : ℕ :=
  s.inFlight.length + (s.failures.filter fun failure => failure.locked = false).length

/-- `checkReturnStatus` up to the release of the read lock. -/
def fail (s : CallbackState) (call : UnlockedCall) (locked : Bool) : CallbackState :=
  { s with failures := ⟨call, s.counter call.service call.slot, locked⟩ :: s.failures }

/-- `checkReturnStatus` from the write lock on. -/
def reset (s : CallbackState) (failure : FailedCall) : CallbackState :=
  let s := { s with failures := s.failures.erase failure }
  if failure.counter = s.counter failure.service failure.slot then
    s.replace failure.service failure.slot ⟨none, none⟩
  else s

/-- One action, with a pool of `threads` threads for HIDL calls.  Calls under the read lock come from
any thread. -/
def step (threads : ℕ) (s : CallbackState) : CallbackAct → Option CallbackState
  | .setResponseFunctions service slot callbacks =>
    if s.rpcBusy < threads ∧ s.CanCount service slot then some (s.replace service slot callbacks)
    else none
  | .call service slot kind isOk =>
    match (s.callbacks service slot).callee kind with
    | none => some s
    | some _ =>
      if isOk then some s else some (s.fail ⟨service, slot, s.callbacks service slot⟩ true)
  | .callUnlocked service slot kind =>
    if s.rpcBusy < threads then
      match (s.callbacks service slot).callee kind with
      | none => some s
      | some _ =>
        some { s with inFlight := ⟨service, slot, s.callbacks service slot⟩ :: s.inFlight }
    else none
  | .returnUnlocked call isOk =>
    if call ∈ s.inFlight then
      let s := { s with inFlight := s.inFlight.erase call }
      if isOk then some s else some (s.fail call false)
    else none
  | .checkReturnStatus failure =>
    if failure ∈ s.failures ∧ s.CanCount failure.service failure.slot then some (s.reset failure)
    else none

/-! ## What the counter is for -/

/-- The callbacks on which a call was made are still there, or they were dropped. -/
def StillOrNone (s : CallbackState) (call : UnlockedCall) : Prop :=
  s.callbacks call.service call.slot = call.callbacks
    ∨ s.callbacks call.service call.slot = ⟨none, none⟩

/-- A failure that noted the present counter was of the present callbacks, if there are any. -/
structure Inv (s : CallbackState) : Prop where
  in_flight : ∀ call ∈ s.inFlight, s.StillOrNone call
  counter_le : ∀ f ∈ s.failures, f.counter ≤ s.counter f.service f.slot
  current : ∀ f ∈ s.failures, f.counter = s.counter f.service f.slot → s.StillOrNone f.toUnlockedCall

lemma init_inv : init.Inv := ⟨by simp [init], by simp [init], by simp [init]⟩

lemma update_update_apply {γ : Type} (f : RadioService → Slot → γ) (service : RadioService) (slot : Slot)
    (value : γ) (service' : RadioService) (slot' : Slot) :
    update f service (update (f service) slot value) service' slot'
      = if service' = service ∧ slot' = slot then value else f service' slot' := by
  by_cases hservice : service' = service
  · subst hservice
    by_cases hslot : slot' = slot
    · subst hslot
      simp
    · simp [hslot]
  · simp [hservice]

lemma counter_replace (s : CallbackState) (service : RadioService) (slot : Slot) (callbacks : Callbacks)
    (service' : RadioService) (slot' : Slot) :
    (s.replace service slot callbacks).counter service' slot'
      = if service' = service ∧ slot' = slot then s.counter service slot + 1
        else s.counter service' slot' :=
  update_update_apply s.counter service slot _ service' slot'

lemma callbacks_replace (s : CallbackState) (service : RadioService) (slot : Slot)
    (callbacks : Callbacks) (service' : RadioService) (slot' : Slot) :
    (s.replace service slot callbacks).callbacks service' slot'
      = if service' = service ∧ slot' = slot then callbacks else s.callbacks service' slot' :=
  update_update_apply s.callbacks service slot callbacks service' slot'

variable {s : CallbackState}

/-- Replacing callbacks leaves every failure noted before behind; a call in flight may lose its
callbacks, but not to others. -/
lemma Inv.replace (h : s.Inv) (service : RadioService) (slot : Slot)
    {callbacks : Callbacks} (hnew : callbacks = ⟨none, none⟩ ∨ s.inFlight = []) :
    (s.replace service slot callbacks).Inv := by
  refine ⟨fun call hcall => ?_, fun f hf => ?_, fun f hf heq => ?_⟩
  · rcases hnew with rfl | hnil
    · rw [StillOrNone, callbacks_replace]
      split_ifs
      · exact .inr rfl
      · exact h.in_flight call hcall
    · have hcall : call ∈ s.inFlight := hcall
      rw [hnil] at hcall
      cases hcall
  · have hle := h.counter_le f hf
    rw [counter_replace]
    split_ifs with hsame
    · rw [hsame.1, hsame.2] at hle
      omega
    · exact hle
  · have hle := h.counter_le f hf
    rw [counter_replace] at heq
    by_cases hsame : f.service = service ∧ f.slot = slot
    · rw [if_pos hsame] at heq
      rw [hsame.1, hsame.2] at hle
      omega
    · rw [if_neg hsame] at heq
      rw [StillOrNone, callbacks_replace, if_neg hsame]
      exact h.current f hf heq

lemma Inv.fail (h : s.Inv) {call : UnlockedCall} (hcall : s.StillOrNone call)
    (locked : Bool) : (s.fail call locked).Inv := by
  refine ⟨h.in_flight, fun f hf => ?_, fun f hf heq => ?_⟩
  · rcases mem_cons.mp hf with rfl | hf
    · exact Int.le_refl _
    · exact h.counter_le f hf
  · rcases mem_cons.mp hf with rfl | hf
    · exact hcall
    · exact h.current f hf heq

lemma Inv.reset (h : s.Inv) (failure : FailedCall) : (s.reset failure).Inv := by
  have hsub := erase_subset (l := s.failures) (a := failure)
  have hless : ({ s with failures := s.failures.erase failure } : CallbackState).Inv :=
    ⟨h.in_flight, fun f hf => h.counter_le f (hsub hf), fun f hf => h.current f (hsub hf)⟩
  simp only [CallbackState.reset]
  split_ifs
  · exact hless.replace failure.service failure.slot (.inl rfl)
  · exact hless

/-- What a step does: callbacks are installed; a call succeeds or is not made, fails, or is under way; it
comes back, and may have failed; a failure is followed up. -/
inductive Move (threads : ℕ) (s : CallbackState) : CallbackAct → CallbackState → Prop
  | installed {service : RadioService} {slot : Slot} {callbacks : Callbacks} (hbusy : s.rpcBusy < threads) :
      Move threads s (.setResponseFunctions service slot callbacks) (s.replace service slot callbacks)
  | nothing {act : CallbackAct} : Move threads s act s
  | failed {act : CallbackAct} {call : UnlockedCall}
      (hcall : s.callbacks call.service call.slot = call.callbacks) : Move threads s act (s.fail call true)
  | called {act : CallbackAct} {call : UnlockedCall}
      (hcall : s.callbacks call.service call.slot = call.callbacks) :
      Move threads s act { s with inFlight := call :: s.inFlight }
  | returned {act : CallbackAct} {call : UnlockedCall} :
      Move threads s act { s with inFlight := s.inFlight.erase call }
  | returnedFailed {act : CallbackAct} {call : UnlockedCall} (hmem : call ∈ s.inFlight) :
      Move threads s act (fail { s with inFlight := s.inFlight.erase call } call false)
  | followedUp {failure : FailedCall} (hmem : failure ∈ s.failures) :
      Move threads s (.checkReturnStatus failure) (s.reset failure)

lemma move_of_step {threads : ℕ} {s' : CallbackState} {act : CallbackAct}
    (hs' : s.step threads act = some s') : Move threads s act s' := by
  cases act with
  | setResponseFunctions service slot callbacks =>
    obtain ⟨hguard, rfl⟩ := Option.ite_some_none_eq_some.mp hs'
    exact .installed hguard.1
  | call service slot kind isOk =>
    simp only [step] at hs'
    split at hs'
    · exact Option.some.inj hs' ▸ Move.nothing
    · split_ifs at hs'
      · exact Option.some.inj hs' ▸ Move.nothing
      · exact Option.some.inj hs' ▸ Move.failed rfl
  | callUnlocked service slot kind =>
    simp only [step] at hs'
    split_ifs at hs'
    split at hs'
    · exact Option.some.inj hs' ▸ Move.nothing
    · exact Option.some.inj hs' ▸ Move.called rfl
  | returnUnlocked call isOk =>
    simp only [step] at hs'
    split_ifs at hs' with hmem
    · exact Option.some.inj hs' ▸ Move.returned
    · exact Option.some.inj hs' ▸ Move.returnedFailed hmem
  | checkReturnStatus failure =>
    obtain ⟨hguard, rfl⟩ := Option.ite_some_none_eq_some.mp hs'
    exact .followedUp hguard.1

/-- **One step**, with one thread for HIDL calls. -/
lemma step_inv (s : CallbackState) (act : CallbackAct) (s' : CallbackState) (h : s.Inv)
    (hs' : s.step rpcThreadpoolSize act = some s') : s'.Inv := by
  have hless : ∀ call, ({ s with inFlight := s.inFlight.erase call } : CallbackState).Inv := fun call =>
    ⟨fun c hc => h.in_flight c (erase_subset hc), h.counter_le, h.current⟩
  cases move_of_step hs' with
  | installed hbusy =>
    have hidle : s.inFlight = [] := by
      simp only [rpcBusy, rpcThreadpoolSize] at hbusy
      exact length_eq_zero_iff.mp (by omega)
    exact h.replace _ _ (.inr hidle)
  | nothing => exact h
  | failed hcall => exact h.fail (.inl hcall) true
  | called hcall =>
    refine ⟨fun call hmem => ?_, h.counter_le, h.current⟩
    rcases mem_cons.mp hmem with rfl | hmem
    · exact .inl hcall
    · exact h.in_flight call hmem
  | returned => exact hless _
  | returnedFailed hmem => exact (hless _).fail (h.in_flight _ hmem) false
  | followedUp hmem => exact h.reset _

lemma changed_cases {threads : ℕ} {s' : CallbackState} {act : CallbackAct} {service : RadioService}
    {slot : Slot} (hs' : s.step threads act = some s')
    (hchanged : s'.callbacks service slot ≠ s.callbacks service slot) :
    (∃ callbacks, act = .setResponseFunctions service slot callbacks)
      ∨ ∃ failure, act = .checkReturnStatus failure ∧ failure ∈ s.failures
        ∧ failure.service = service ∧ failure.slot = slot
        ∧ failure.counter = s.counter service slot ∧ s'.callbacks service slot = ⟨none, none⟩ := by
  cases move_of_step hs' with
  | @installed service' slot' callbacks hbusy =>
    rw [callbacks_replace] at hchanged
    split_ifs at hchanged with hsame
    · rcases hsame with ⟨rfl, rfl⟩
      exact .inl ⟨callbacks, rfl⟩
    · exact absurd rfl hchanged
  | nothing | failed | called | returned | returnedFailed => exact absurd rfl hchanged
  | @followedUp failure hmem =>
    simp only [reset] at hchanged ⊢
    split_ifs at hchanged ⊢ with hcounter
    · rw [callbacks_replace] at hchanged ⊢
      split_ifs at hchanged ⊢ with hsame
      · rcases hsame with ⟨rfl, rfl⟩
        exact .inr ⟨failure, rfl, hmem, rfl, rfl, hcounter, rfl⟩
      · exact absurd rfl hchanged
    · exact absurd rfl hchanged

/-- **Callbacks are dropped only for a failed call on themselves**: wherever a step changes the
callbacks of a slot, it installs new ones, or it drops the very ones a call has failed on. -/
theorem changed_by_own_failure (acts : List CallbackAct) (s s' : CallbackState)
    (hrun : run (step rpcThreadpoolSize) init acts = some s) (act : CallbackAct)
    (hs' : s.step rpcThreadpoolSize act = some s') (service : RadioService) (slot : Slot)
    (hchanged : s'.callbacks service slot ≠ s.callbacks service slot) :
    (∃ callbacks, act = .setResponseFunctions service slot callbacks)
      ∨ ∃ failure, act = .checkReturnStatus failure ∧ failure ∈ s.failures
        ∧ failure.service = service ∧ failure.slot = slot
        ∧ s.callbacks service slot = failure.callbacks := by
  have hinv := run_invariant step_inv init_inv hrun
  rcases changed_cases hs' hchanged with hnew | ⟨failure, rfl, hmem, rfl, rfl, hcounter, hnone⟩
  · exact .inl hnew
  · rcases hinv.current failure hmem hcounter with hstill | hdropped
    · exact .inr ⟨failure, rfl, hmem, rfl, rfl, hstill⟩
    · exact absurd (hnone.trans hdropped.symm) hchanged

/-- A response fails, and the client comes back before the write lock is taken: the late
`checkReturnStatus` leaves its callbacks alone.  On the other slot a refused request finds its
client dead. -/
def callbackRun : List CallbackAct :=
  [.setResponseFunctions .radio .socket1 ⟨some 1, some 2⟩, .call .radio .socket1 .response false,
    .setResponseFunctions .radio .socket1 ⟨some 3, some 4⟩,
    .setResponseFunctions .radio .socket2 ⟨some 5, some 6⟩,
    .checkReturnStatus ⟨⟨.radio, .socket1, ⟨some 1, some 2⟩⟩, 1, true⟩,
    .callUnlocked .radio .socket2 .response,
    .returnUnlocked ⟨.radio, .socket2, ⟨some 5, some 6⟩⟩ false]

/-- That refused request, waiting for the write lock. -/
def refusedCall : FailedCall := ⟨⟨.radio, .socket2, ⟨some 5, some 6⟩⟩, 1, false⟩

theorem changed_by_own_failure_callbackRun :
    ∃ s s', run (step rpcThreadpoolSize) init callbackRun = some s
      ∧ s.callbacks .radio .socket1 = ⟨some 3, some 4⟩
      ∧ s.step rpcThreadpoolSize (.checkReturnStatus refusedCall) = some s'
      ∧ ∃ failure : FailedCall, failure ∈ s.failures ∧ failure.service = .radio
        ∧ failure.slot = .socket2 ∧ s.callbacks .radio .socket2 = failure.callbacks := by
  refine ⟨_, _, rfl, rfl, rfl, ?_⟩
  rcases changed_by_own_failure callbackRun _ _ rfl (.checkReturnStatus refusedCall) rfl .radio .socket2
    (by decide) with ⟨callbacks, heq⟩ | ⟨failure, _, hfailure⟩
  · cases heq
  · exact ⟨failure, hfailure⟩

-- with a second thread in the pool, a client that comes during a refusal would be dropped
example :
    ((run (step 2) init [.setResponseFunctions .radio .socket1 ⟨some 1, some 2⟩,
        .callUnlocked .radio .socket1 .response,
        .setResponseFunctions .radio .socket1 ⟨some 3, some 4⟩,
        .returnUnlocked ⟨.radio, .socket1, ⟨some 1, some 2⟩⟩ false,
        .checkReturnStatus ⟨⟨.radio, .socket1, ⟨some 1, some 2⟩⟩, 2, false⟩]).map
      fun s => s.callbacks .radio .socket1) = some ⟨none, none⟩ := by
  decide

end CallbackState

end Hal
