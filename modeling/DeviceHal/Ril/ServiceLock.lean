import Mathlib.Algebra.Order.BigOperators.Group.Finset
import DeviceHal.Core.RwLock
import DeviceHal.Ril.Callbacks

/-!
# The lock around callbacks

Callbacks are called under a read lock, so that `setResponseFunctions` does not change them meanwhile.  When
a call fails, `checkReturnStatus` gives the read lock up, resets the callbacks under the write lock,
and takes the read lock again: its caller is to hold it, once.

The threads here are any finite number, and interleave at each operation on the lock.  What a thread still
has to do in its entry point is a list of operations, `rest`.  `onRequest` stays at the head of the list while
the vendor handles a request, and the vendor may enter the daemon again from there.

**The defects.**  `sendErrorResponse`, from a request that is refused, and `resendLastNITZTimeData`, when a client
connects, call back without the lock.  Some indications dispatch a request of their own, under the lock; a
vendor that completes it at once holds the lock twice.

* `Hold.next` — the discipline, one operation at a time; every entry point keeps to it
  (`Entry.ops_balanced`) as long as no call fails.
* **`locks_ok_iff`** — the locks are right all along a run **iff** a call fails only where the read lock is held
  once.
-/

namespace Hal

open List Option Function

inductive Rwlock where
  | radioServiceRwlock
  | radioServiceRwlock2
deriving DecidableEq

def getRadioServiceRwlock (slot : Slot) : Rwlock :=
  if slot.id = 2 then .radioServiceRwlock2 else .radioServiceRwlock

@[simp] lemma getRadioServiceRwlock_eq (slot : Slot) : getRadioServiceRwlock slot = .radioServiceRwlock := by
  cases slot <;> rfl

/-! ## Entry points -/

/-- What a thread does, as far as the lock and the callbacks are concerned. -/
inductive LockOp where
  | lock (op : RwOp) (slot : Slot)
  /-- The body of `setResponseFunctions`. -/
  | install (service : RadioService) (slot : Slot) (callbacks : Callbacks)
  /-- The body of `checkReturnStatus`, with the counter it noted. -/
  | reset (service : RadioService) (slot : Slot) (counter : ℤ)
  /-- A callback, if there is one, and `checkReturnStatus`. -/
  | call (service : RadioService) (slot : Slot) (kind : CallbackKind)
  /-- The vendor's `onRequest`. -/
  | onRequest
deriving DecidableEq

/-- `checkReturnStatus` of a failed call, from the write lock on. -/
def checkReturnStatus (service : RadioService) (slot : Slot) (counter : ℤ) : List LockOp :=
  [.lock .wrlock slot, .reset service slot counter, .lock .unlock slot, .lock .rdlock slot]

/-- What a dispatch helper comes to: the request is not added or waits, is refused by `sendErrorResponse`, or
is handed to the vendor. -/
inductive Dispatched where
  | kept
  | refused
  | handed

def Dispatched.ops (service : RadioService) (slot : Slot) : Dispatched → List LockOp
  | .kept => []
  | .refused => [.call service slot .response]
  | .handed => [.onRequest]

/-- The response functions of `s_unsolResponses`; `silent` is one that calls nobody, for its data or because
it is null. -/
inductive Indication where
  | silent
  | callback (service : RadioService)
  | registrationSuspendInd (dispatch : Dispatched)
  | incomingCallInd (dispatch : Dispatched)
  | setAttachApnInd (handed : Bool)

def Indication.ops (slot : Slot) : Indication → List LockOp
  | .silent => []
  | .callback service => [.call service slot .indication]
  | .registrationSuspendInd dispatch => dispatch.ops .radio slot
  | .incomingCallInd dispatch => dispatch.ops .radio slot ++ [.call .radio slot .indication]
  | .setAttachApnInd handed => if handed then [.onRequest] else []

def sendUnsolResponse (sent : Slot × Indication) : List LockOp :=
  [.lock .rdlock sent.1] ++ sent.2.ops sent.1 ++ [.lock .unlock sent.1]

/-- The entry points.  The unsolicited responses `sent` are more than one when cached ones are flushed; `nitz`
says whether there is a time to send again. -/
inductive Entry where
  | registerService
  | setResponseFunctions (service : RadioService) (slot : Slot) (callbacks : Callbacks)
      (sent : List (Slot × Indication)) (nitz : Bool)
  | request (service : RadioService) (slot : Slot) (dispatch : Dispatched)
  | onRequestAck (slot : Slot) (cancelled : Bool)
  | onRequestComplete (service : RadioService) (slot : Slot) (cancelled calls dequeues : Bool)
  | onUnsolicitedResponse (sent : List (Slot × Indication))

namespace Entry

def fromVendor : Entry → Bool
  | .onRequestAck _ _ => true
  | .onRequestComplete _ _ _ _ _ => true
  | .onUnsolicitedResponse _ => true
  | _ => false

/-- `onNewCommandConnect`, which only the radio service calls. -/
def onNewCommandConnect (slot : Slot) (sent : List (Slot × Indication)) (nitz : Bool) : List LockOp :=
  sent.flatMap sendUnsolResponse ++ if nitz then [.call .radio slot .indication] else []

def ops : Entry → List LockOp
  | .registerService =>
    [.lock .wrlock .socket1, .lock .unlock .socket1, .lock .wrlock .socket2, .lock .unlock .socket2]
  | .setResponseFunctions service slot callbacks sent nitz =>
    [.lock .wrlock slot, .install service slot callbacks, .lock .unlock slot] ++
      match service with
      | .radio => onNewCommandConnect slot sent nitz
      | .oemHook => []
  | .request service slot dispatch => dispatch.ops service slot
  | .onRequestAck slot cancelled =>
    if cancelled then []
    else [.lock .rdlock slot, .call .radio slot .response, .lock .unlock slot]
  | .onRequestComplete service slot cancelled calls dequeues =>
    (if cancelled then []
      else [.lock .rdlock slot] ++ (if calls then [.call service slot .response] else [])
        ++ [.lock .unlock slot])
      ++ if dequeues then [.onRequest] else []
  | .onUnsolicitedResponse sent => sent.flatMap sendUnsolResponse

end Entry

/-! ## The machine -/

/-- The locks, what each thread still has to do, and the callbacks with their counters.  `misused` is a ghost: a
thread has unlocked what it did not hold. -/
structure ServiceState (τ : Type) where
  locks : Rwlock → RwLock τ
  rest : τ → List LockOp
  callbacks : RadioService → Slot → Callbacks
  counter : RadioService → Slot → ℤ
  misused : Bool

/-- A thread enters, or goes on; `isOk` is what the transport reports if it makes a call. -/
inductive ServiceAct (τ : Type) where
  | enter (t : τ) (entry : Entry)
  | exec (t : τ) (isOk : Bool)

namespace ServiceState

variable {τ : Type} [DecidableEq τ] [Fintype τ]

def init : ServiceState τ :=
  ⟨fun _ => .free, fun _ => [], fun _ _ => ⟨none, none⟩, fun _ _ => 0, false⟩

def setRest (s : ServiceState τ) (t : τ) (ops : List LockOp) : ServiceState τ :=
  { s with rest := update s.rest t ops }

/-- New callbacks, or none, and the counter goes up. -/
def replace (s : ServiceState τ) (service : RadioService) (slot : Slot) (callbacks : Callbacks) : ServiceState τ :=
  { s with
    callbacks := update s.callbacks service
      (update (s.callbacks service) slot callbacks)
    counter := update s.counter service
      (update (s.counter service) slot (s.counter service slot + 1)) }

def lockOp (s : ServiceState τ) (t : τ) (op : RwOp) (slot : Slot) : Option (ServiceState τ) :=
  let lock := getRadioServiceRwlock slot
  ((s.locks lock).exec t op).map fun l =>
    { s with
      locks := update s.locks lock l
      misused := s.misused || decide (op = .unlock ∧ ¬ (s.locks lock).Holds t) }

/-- The operation at the head, with `ops` behind it.  `checkReturnStatus` of a failed call has noted the counter
and released the lock when the step is over; the rest of it comes before `ops`. -/
def perform (s : ServiceState τ) (t : τ) (isOk : Bool) (ops : List LockOp) :
    LockOp → Option (ServiceState τ)
  | .lock op slot => (s.lockOp t op slot).map fun s => s.setRest t ops
  | .install service slot callbacks => some ((s.replace service slot callbacks).setRest t ops)
  | .reset service slot counter =>
    if counter = s.counter service slot then
      some ((s.replace service slot ⟨none, none⟩).setRest t ops)
    else some (s.setRest t ops)
  | .call service slot kind =>
    if isOk = true ∨ (s.callbacks service slot).callee kind = none then some (s.setRest t ops)
    else (s.lockOp t .unlock slot).map fun s' =>
      s'.setRest t (checkReturnStatus service slot (s.counter service slot) ++ ops)
  | .onRequest => some (s.setRest t ops)

def step (s : ServiceState τ) : ServiceAct τ → Option (ServiceState τ)
  | .enter t entry =>
    match s.rest t with
    | [] => some (s.setRest t entry.ops)
    | .onRequest :: ops =>
      if entry.fromVendor then some (s.setRest t (entry.ops ++ .onRequest :: ops)) else none
    | _ => none
  | .exec t isOk =>
    match s.rest t with
    | [] => none
    | op :: ops => s.perform t isOk ops op

structure Ok (s : ServiceState τ) : Prop where
  right : s.misused = false
  /-- A thread that is not in an entry point has no lock. -/
  released : ∀ t, s.rest t = [] → ∀ slot, ¬ (s.locks (getRadioServiceRwlock slot)).Holds t
  /-- The threads can finish, and then the write lock can be taken. -/
  drains : ∃ acts s', (∀ act ∈ acts, ∃ t isOk, act = .exec t isOk) ∧ run step s acts = some s' ∧
    (∀ t, s'.rest t = []) ∧ ∀ slot t, (s'.locks (getRadioServiceRwlock slot)).exec t .wrlock ≠ none

/-- If the operation is a call that fails, the read lock is held once. -/
def GuardedOp (s : ServiceState τ) (t : τ) (isOk : Bool) : LockOp → Prop
  | .call service slot kind =>
    (isOk = true ∨ (s.callbacks service slot).callee kind = none)
      ∨ (s.locks (getRadioServiceRwlock slot)).readers t = 1
  | _ => True

instance (s : ServiceState τ) (t : τ) (isOk : Bool) : DecidablePred (s.GuardedOp t isOk)
  | .call _ _ _ => inferInstanceAs (Decidable ((_ ∨ _) ∨ _))
  | .lock _ _ | .install _ _ _ | .reset _ _ _ | .onRequest => isTrue trivial

/-- A call that fails is made with the read lock held once. -/
def Guarded (s : ServiceState τ) : ServiceAct τ → Prop
  | .enter _ _ => True
  | .exec t isOk => ∀ op ∈ (s.rest t).head?, s.GuardedOp t isOk op

instance (s : ServiceState τ) : DecidablePred s.Guarded
  | .enter _ _ => isTrue trivial
  | .exec t isOk => inferInstanceAs (Decidable (∀ op ∈ (s.rest t).head?, s.GuardedOp t isOk op))

end ServiceState

/-! ## The discipline -/

/-- What a thread has of the lock after an operation, if the operation is right. -/
def Hold.next : Hold → LockOp → Option Hold
  | h, .lock op _ => h.after op
  | .write, .install _ _ _ => some .write
  | .write, .reset _ _ _ => some .write
  | .read n, .call _ _ _ => some (.read n)
  | .read n, .onRequest => some (.read n)
  | _, _ => none

lemma Hold.next_of_ne_lock {h h' : Hold} {op : LockOp} (hop : ∀ rwop slot, op ≠ .lock rwop slot)
    (hnext : h.next op = some h') : h' = h := by
  cases op with
  | lock rwop slot => exact absurd rfl (hop rwop slot)
  | install | reset | call | onRequest =>
    cases h <;> simp only [Hold.next, reduceCtorEq, Option.some.injEq] at hnext
    exact hnext.symm

/-- Right whatever the thread reads, and leaves it as it was. -/
def Neutral (ops : List LockOp) : Prop := ∀ n, ops.foldlM Hold.next (.read n) = some (.read n)

lemma neutral_nil : Neutral [] := fun _ => rfl

lemma neutral_call (service : RadioService) (slot : Slot) (kind : CallbackKind) :
    Neutral [.call service slot kind] := fun _ => rfl

lemma neutral_onRequest : Neutral [.onRequest] := fun _ => rfl

lemma Neutral.append {ops ops' : List LockOp} (h : Neutral ops) (h' : Neutral ops') : Neutral (ops ++ ops') := by
  intro n
  rw [foldlM_append, h n]
  exact h' n

lemma Neutral.bracket {ops : List LockOp} (h : Neutral ops) (slot : Slot) :
    Neutral ([.lock .rdlock slot] ++ ops ++ [.lock .unlock slot]) := by
  intro n
  rw [foldlM_append, foldlM_append]
  show (ops.foldlM Hold.next (.read (n + 1)) >>= _) = _
  rw [h (n + 1)]
  rfl

lemma neutral_flatMap {ι : Type} {f : ι → List LockOp} (h : ∀ i, Neutral (f i)) (is : List ι) :
    Neutral (is.flatMap f) := by
  induction is with
  | nil => exact neutral_nil
  | cons i is ih => exact (h i).append ih

lemma Dispatched.neutral_ops (service : RadioService) (slot : Slot) (dispatch : Dispatched) :
    Neutral (dispatch.ops service slot) := by
  cases dispatch with
  | kept => exact neutral_nil
  | refused => exact neutral_call service slot .response
  | handed => exact neutral_onRequest

lemma Indication.neutral_ops (slot : Slot) (indication : Indication) : Neutral (indication.ops slot) := by
  cases indication with
  | silent => exact neutral_nil
  | callback service => exact neutral_call service slot .indication
  | registrationSuspendInd dispatch => exact dispatch.neutral_ops .radio slot
  | incomingCallInd dispatch =>
    exact (dispatch.neutral_ops .radio slot).append (neutral_call .radio slot .indication)
  | setAttachApnInd handed =>
    cases handed with
    | false => exact neutral_nil
    | true => exact neutral_onRequest

lemma neutral_sendUnsolResponse (sent : Slot × Indication) : Neutral (sendUnsolResponse sent) :=
  (sent.2.neutral_ops sent.1).bracket sent.1

namespace Entry

lemma neutral_ops {entry : Entry} (h : entry.fromVendor = true) : Neutral entry.ops := by
  cases entry with
  | onRequestAck slot cancelled =>
    cases cancelled with
    | false => exact (neutral_call .radio slot .response).bracket slot
    | true => exact neutral_nil
  | onRequestComplete service slot cancelled calls dequeues =>
    refine Neutral.append ?_ ?_
    · cases cancelled with
      | false =>
        refine Neutral.bracket ?_ slot
        cases calls with
        | false => exact neutral_nil
        | true => exact neutral_call service slot .response
      | true => exact neutral_nil
    · cases dequeues with
      | false => exact neutral_nil
      | true => exact neutral_onRequest
  | onUnsolicitedResponse sent => exact neutral_flatMap neutral_sendUnsolResponse sent
  | registerService | setResponseFunctions | request => simp [fromVendor] at h

lemma neutral_onNewCommandConnect (slot : Slot) (sent : List (Slot × Indication)) (nitz : Bool) :
    Neutral (onNewCommandConnect slot sent nitz) := by
  refine (neutral_flatMap neutral_sendUnsolResponse sent).append ?_
  cases nitz with
  | false => exact neutral_nil
  | true => exact neutral_call .radio slot .indication

/-- **Every entry point keeps to the discipline.** -/
lemma ops_balanced (entry : Entry) : entry.ops.foldlM Hold.next (.read 0) = some (.read 0) := by
  cases entry with
  | registerService => rfl
  | setResponseFunctions service slot callbacks sent nitz =>
    cases service with
    | radio => exact neutral_onNewCommandConnect slot sent nitz 0
    | oemHook => rfl
  | request service slot dispatch => exact dispatch.neutral_ops service slot 0
  | onRequestAck | onRequestComplete | onUnsolicitedResponse => exact neutral_ops rfl 0

end Entry

namespace ServiceState

variable {τ : Type}

lemma guarded_exec_ok (s : ServiceState τ) (t : τ) : s.Guarded (.exec t true) := by
  intro op _
  cases op with
  | call => exact .inl (.inl rfl)
  | lock | install | reset | onRequest => trivial

variable [DecidableEq τ]

/-! ## The invariant -/

def hold (s : ServiceState τ) (t : τ) : Hold := (s.locks .radioServiceRwlock).hold t

/-- What is left to do is right for what is held, and ends with nothing. -/
structure Inv (s : ServiceState τ) : Prop where
  excl : (s.locks .radioServiceRwlock).Excl
  balanced : ∀ t, (s.rest t).foldlM Hold.next (s.hold t) = some (.read 0)
  right : s.misused = false

lemma init_inv : (init : ServiceState τ).Inv := ⟨RwLock.excl_free, fun _ => rfl, rfl⟩

variable {op : LockOp} {ops : List LockOp} {s s' : ServiceState τ} {t : τ}

lemma Inv.head (h : s.Inv) (hrest : s.rest t = op :: ops) :
    ∃ h', (s.hold t).next op = some h' ∧ ops.foldlM Hold.next h' = some (.read 0) := by
  have hbal := h.balanced t
  rw [hrest, foldlM_cons] at hbal
  exact bind_eq_some_iff.mp hbal

lemma Inv.tail_of_ne_lock (h : s.Inv) (hrest : s.rest t = op :: ops) (hop : ∀ rwop slot, op ≠ .lock rwop slot) :
    ops.foldlM Hold.next (s.hold t) = some (.read 0) := by
  rcases h.head hrest with ⟨h', hnext, hops⟩
  exact Hold.next_of_ne_lock hop hnext ▸ hops

lemma Inv.replace (h : s.Inv) (service : RadioService) (slot : Slot)
    (callbacks : Callbacks) : (s.replace service slot callbacks).Inv := ⟨h.excl, h.balanced, h.right⟩

variable {slot : Slot}

lemma Inv.hold_of_call (h : s.Inv) {service : RadioService}
    {kind : CallbackKind} (hrest : s.rest t = .call service slot kind :: ops) :
    s.hold t = .read ((s.locks .radioServiceRwlock).readers t) := by
  rcases h.head hrest with ⟨h', hnext, -⟩
  cases hhold : s.hold t with
  | write =>
    rw [hhold] at hnext
    exact absurd hnext (by simp [Hold.next])
  | read n => rw [(RwLock.hold_eq_read.mp hhold).2]

lemma Inv.not_holds (h : s.Inv) (hrest : s.rest t = []) (slot : Slot) :
    ¬ (s.locks (getRadioServiceRwlock slot)).Holds t := by
  have hidle := h.balanced t
  rw [hrest] at hidle
  rw [getRadioServiceRwlock_eq, RwLock.not_holds_iff]
  exact Option.some.inj hidle

lemma Inv.setRest (h : s.Inv) (hops : ops.foldlM Hold.next (s.hold t) = some (.read 0)) : (s.setRest t ops).Inv := by
  refine ⟨h.excl, fun u => ?_, h.right⟩
  show (update s.rest t ops u).foldlM Hold.next (s.hold u) = _
  by_cases hu : u = t
  · subst hu
    rw [update_self, hops]
  · rw [update_of_ne hu, h.balanced u]

variable [Fintype τ]

lemma lockOp_eq_some {op : RwOp} (hs' : s.lockOp t op slot = some s') :
    ∃ l, (s.locks .radioServiceRwlock).exec t op = some l ∧ s' =
      { s with
        locks := update s.locks .radioServiceRwlock l
        misused := s.misused || decide (op = .unlock ∧ ¬ (s.locks .radioServiceRwlock).Holds t) } := by
  simp only [lockOp, getRadioServiceRwlock_eq] at hs'
  rcases map_eq_some_iff.mp hs' with ⟨l, hl, rfl⟩
  exact ⟨l, hl, rfl⟩

lemma Inv.lockOp (h : s.Inv) {op : RwOp} {h' : Hold} (hafter : (s.hold t).after op = some h')
    (hs' : s.lockOp t op slot = some s')
    (hops : ops.foldlM Hold.next h' = some (.read 0)) : (s'.setRest t ops).Inv := by
  rcases lockOp_eq_some hs' with ⟨l, hl, rfl⟩
  have hheld : ¬ (op = .unlock ∧ ¬ (s.locks .radioServiceRwlock).Holds t) := by
    rintro ⟨rfl, hnot⟩
    rw [hold, RwLock.not_holds_iff.mp hnot] at hafter
    exact absurd hafter (by simp [Hold.after])
  refine ⟨?_, fun u => ?_, ?_⟩
  · simpa [ServiceState.setRest] using h.excl.exec hl
  · by_cases hu : u = t
    · subst hu
      simpa [ServiceState.setRest, hold, RwLock.hold_exec h.excl hafter hl] using hops
    · simpa [ServiceState.setRest, hold, hu, RwLock.hold_exec_of_ne hl hu] using h.balanced u
  · simp [ServiceState.setRest, h.right, hheld]

variable {isOk : Bool}

/-- **One operation.** -/
lemma Inv.perform (h : s.Inv) (hrest : s.rest t = op :: ops) (hguard : s.GuardedOp t isOk op)
    (hs' : s.perform t isOk ops op = some s') : s'.Inv := by
  cases op with
  | lock op slot =>
    rcases h.head hrest with ⟨h', hnext, hops⟩
    rcases map_eq_some_iff.mp hs' with ⟨s₁, hs₁, rfl⟩
    exact h.lockOp hnext hs₁ hops
  | install service slot callbacks =>
    have hops := h.tail_of_ne_lock hrest (by simp)
    exact Option.some.inj hs' ▸ (h.replace service slot callbacks).setRest hops
  | reset service slot counter =>
    have hops := h.tail_of_ne_lock hrest (by simp)
    simp only [ServiceState.perform] at hs'
    split_ifs at hs'
    · exact Option.some.inj hs' ▸ (h.replace service slot ⟨none, none⟩).setRest hops
    · exact Option.some.inj hs' ▸ h.setRest hops
  | call service slot kind =>
    have hops := h.tail_of_ne_lock hrest (by simp)
    simp only [ServiceState.perform] at hs'
    split_ifs at hs' with hok
    · exact Option.some.inj hs' ▸ h.setRest hops
    · rcases map_eq_some_iff.mp hs' with ⟨s₁, hs₁, rfl⟩
      have hone : s.hold t = .read 1 := by
        rw [h.hold_of_call hrest, ← getRadioServiceRwlock_eq slot, hguard.resolve_left hok]
      have hafter : (s.hold t).after .unlock = some (.read 0) := by
        rw [hone]
        rfl
      rw [hone] at hops
      exact h.lockOp hafter hs₁ hops
  | onRequest =>
    have hops := h.tail_of_ne_lock hrest (by simp)
    exact Option.some.inj hs' ▸ h.setRest hops

lemma Inv.enter (h : s.Inv) {entry : Entry} (hs' : s.step (.enter t entry) = some s') : s'.Inv := by
  simp only [step] at hs'
  split at hs'
  · next hrest =>
    have hidle := h.balanced t
    rw [hrest] at hidle
    rw [← Option.some.inj hs']
    refine h.setRest ?_
    rw [Option.some.inj hidle]
    exact entry.ops_balanced
  · next ops hrest =>
    split_ifs at hs' with hvendor
    rcases h.head hrest with ⟨h', hnext, hops⟩
    rw [← Option.some.inj hs']
    refine h.setRest ?_
    cases hhold : s.hold t with
    | write =>
      rw [hhold] at hnext
      exact absurd hnext (by simp [Hold.next])
    | read n =>
      rw [foldlM_append, Entry.neutral_ops hvendor n]
      have hbal := h.balanced t
      rw [hrest, hhold] at hbal
      exact hbal
  · cases hs'

/-- **One step.** -/
lemma step_inv {act : ServiceAct τ} (h : s.Inv) (hguard : s.Guarded act) (hs' : s.step act = some s') : s'.Inv := by
  cases act with
  | enter t entry => exact h.enter hs'
  | exec t isOk =>
    simp only [step] at hs'
    split at hs'
    · cases hs'
    · next op ops hrest => exact h.perform hrest (hguard op (by simp [hrest])) hs'

/-! ## The threads can finish -/

def size (s : ServiceState τ) : ℕ := ∑ t, (s.rest t).length

lemma size_setRest_lt (hrest : s.rest t = op :: ops) : (s.setRest t ops).size < s.size := by
  refine Finset.sum_lt_sum (fun u _ => ?_) ⟨t, Finset.mem_univ t, ?_⟩
  · by_cases hu : u = t
    · subst hu
      simp [setRest, hrest]
    · simp [setRest, hu]
  · simp [setRest, hrest]

lemma rest_perform (hs' : s.perform t true ops op = some s') : s'.rest = (s.setRest t ops).rest := by
  cases op with
  | lock op slot =>
    rcases map_eq_some_iff.mp hs' with ⟨s₁, hs₁, rfl⟩
    rcases lockOp_eq_some hs₁ with ⟨l, -, rfl⟩
    rfl
  | install | onRequest => exact Option.some.inj hs' ▸ rfl
  | reset service slot counter =>
    simp only [perform] at hs'
    split_ifs at hs'
    · exact Option.some.inj hs' ▸ rfl
    · exact Option.some.inj hs' ▸ rfl
  | call service slot kind =>
    exact Option.some.inj hs' ▸ rfl

lemma perform_ne_none {h : Hold} (ops : List LockOp)
    (hturn : (s.locks .radioServiceRwlock).Turn t) (hnext : (s.hold t).next op = some h) :
    s.perform t true ops op ≠ none := by
  cases op with
  | lock op slot => simpa [perform, lockOp] using hturn.exec_ne_none hnext
  | install | call | onRequest => simp [perform]
  | reset service slot counter =>
    simp only [perform]
    split_ifs <;> simp

lemma Inv.exists_exec (h : s.Inv) (ht : s.rest t ≠ []) :
    ∃ u s', s.step (.exec u true) = some s' ∧ s'.size < s.size := by
  have hbusy : ∃ u, s.rest u ≠ [] ∧ (s.locks .radioServiceRwlock).Turn u := by
    rcases (s.locks .radioServiceRwlock).exists_turn with ⟨u, hu, hturn⟩ | hturn
    · refine ⟨u, fun hnil => ?_, hturn⟩
      have hidle := h.balanced u
      rw [hnil] at hidle
      exact RwLock.not_holds_iff.mpr (Option.some.inj hidle) hu
    · exact ⟨t, ht, hturn t⟩
  rcases hbusy with ⟨u, hu, hturn⟩
  rcases exists_cons_of_ne_nil hu with ⟨op, ops, hrest⟩
  rcases h.head hrest with ⟨h', hnext, -⟩
  rcases ne_none_iff_exists'.mp (perform_ne_none ops hturn hnext) with ⟨s', hs'⟩
  refine ⟨u, s', by simp only [step, hrest, hs'], ?_⟩
  have hsize : s'.size = (s.setRest u ops).size := by rw [size, rest_perform hs', size]
  rw [hsize]
  exact size_setRest_lt hrest

lemma Inv.drains (h : s.Inv) : ∃ acts s',
    (∀ act ∈ acts, ∃ t isOk, act = .exec t isOk) ∧ run step s acts = some s' ∧ s'.Inv ∧
      ∀ t, s'.rest t = [] := by
  -- by induction on what there is to do
  induction hn : s.size using Nat.strong_induction_on generalizing s with
  | _ n ih =>
    by_cases hdone : ∀ t, s.rest t = []
    · exact ⟨[], s, by simp, rfl, h, hdone⟩
    · rcases not_forall.mp hdone with ⟨t, ht⟩
      rcases h.exists_exec ht with ⟨u, s₁, hs₁, hlt⟩
      rcases ih s₁.size (hn ▸ hlt) (step_inv h (guarded_exec_ok s u) hs₁) rfl with ⟨acts, s', hacts, hrun, hinv', hdone'⟩
      refine ⟨.exec u true :: acts, s', ?_, run_cons_eq_some.mpr ⟨s₁, hs₁, hrun⟩, hinv', hdone'⟩
      rintro act (_ | ⟨_, hact⟩)
      · exact ⟨u, true, rfl⟩
      · exact hacts act hact

lemma Inv.ok (h : s.Inv) : s.Ok := by
  refine ⟨h.right, fun t hrest slot => h.not_holds hrest slot, ?_⟩
  rcases h.drains with ⟨acts, s', hacts, hrun, hinv, hdone⟩
  refine ⟨acts, s', hacts, hrun, hdone, fun slot t => ?_⟩
  exact RwLock.exec_wrlock_ne_none (fun u => hinv.not_holds (hdone u) slot) t

/-! ## What an unguarded failure does -/

/-- A thread asks to write what it reads. -/
def Stuck (s : ServiceState τ) (t : τ) : Prop :=
  (∃ slot ops, s.rest t = .lock .wrlock slot :: ops) ∧ 0 < (s.locks .radioServiceRwlock).readers t

lemma perform_of_ne {u : τ} (hne : t ≠ u) (hs' : s.perform u isOk ops op = some s') :
    s'.rest t = s.rest t ∧
      (s'.locks .radioServiceRwlock).readers t = (s.locks .radioServiceRwlock).readers t := by
  have hlock : ∀ {s₁ : ServiceState τ} {rwop : RwOp} {slot : Slot} (ops : List LockOp),
      s.lockOp u rwop slot = some s₁ → (s₁.setRest u ops).rest t = s.rest t ∧
        ((s₁.setRest u ops).locks .radioServiceRwlock).readers t
          = (s.locks .radioServiceRwlock).readers t := by
    intro s₁ rwop slot ops hs₁
    rcases lockOp_eq_some hs₁ with ⟨l, hl, rfl⟩
    simp [setRest, hne, RwLock.readers_exec_of_ne hl hne]
  cases op with
  | lock op slot =>
    rcases map_eq_some_iff.mp hs' with ⟨s₁, hs₁, rfl⟩
    exact hlock ops hs₁
  | install service slot callbacks =>
    rw [← Option.some.inj hs']
    simp [setRest, replace, hne]
  | reset service slot counter =>
    simp only [perform] at hs'
    split_ifs at hs'
    all_goals
      rw [← Option.some.inj hs']
      simp [setRest, replace, hne]
  | call service slot kind =>
    simp only [perform] at hs'
    split_ifs at hs'
    · rw [← Option.some.inj hs']
      simp [setRest, hne]
    · rcases map_eq_some_iff.mp hs' with ⟨s₁, hs₁, rfl⟩
      exact hlock _ hs₁
  | onRequest =>
    rw [← Option.some.inj hs']
    simp [setRest, hne]

lemma Stuck.exec (h : s.Stuck t) {u : τ} (hs' : s.step (.exec u isOk) = some s') : s'.Stuck t := by
  rcases h with ⟨⟨slot, ops, hrest⟩, hreads⟩
  by_cases hu : t = u
  · subst hu
    simp [step, hrest, perform, lockOp, RwLock.exec_wrlock_of_reader hreads] at hs'
  · simp only [step] at hs'
    split at hs'
    · cases hs'
    · rcases perform_of_ne hu hs' with ⟨hrest', hreads'⟩
      exact ⟨⟨slot, ops, hrest'.trans hrest⟩, hreads' ▸ hreads⟩

/-- **A thread that waits for itself never finishes.** -/
lemma Stuck.not_ok (h : s.Stuck t) : ¬ s.Ok := by
  rintro ⟨-, -, acts, s', hacts, hrun, hdone, -⟩
  have hstuck : s'.Stuck t := by
    induction acts generalizing s with
    | nil => exact Option.some.inj hrun ▸ h
    | cons act acts ih =>
      rcases run_cons_eq_some.mp hrun with ⟨s₁, hs₁, hrun'⟩
      rcases hacts act mem_cons_self with ⟨u, isOk, rfl⟩
      exact ih (h.exec hs₁) (fun act hact => hacts act (mem_cons_of_mem _ hact)) hrun'
  rcases hstuck.1 with ⟨slot, ops, hrest⟩
  rw [hdone t] at hrest
  exact cons_ne_nil _ _ hrest.symm

/-- A call that fails, of a thread that does not hold the read lock once: it unlocks what it does not hold, or
is going to wait for itself. -/
lemma not_ok_of_failed_call (h : s.Inv) {service : RadioService}
    {kind : CallbackKind} {ops' : List LockOp} (hrest : s.rest t = .call service slot kind :: ops)
    (hne : (s.locks .radioServiceRwlock).readers t ≠ 1) (hs' : s.lockOp t .unlock slot = some s') :
    ¬ (s'.setRest t (.lock .wrlock slot :: ops')).Ok := by
  have hhold := h.hold_of_call hrest
  rcases lockOp_eq_some hs' with ⟨l, hl, rfl⟩
  cases hn : (s.locks .radioServiceRwlock).readers t with
  | zero =>
    rw [hn] at hhold
    intro hok
    have hright := hok.right
    simp [setRest, RwLock.not_holds_iff.mpr hhold] at hright
  | succ n =>
    rw [hn] at hhold hne
    have hafter := RwLock.hold_exec (h := .read n) h.excl (by rw [← hold, hhold]; rfl) hl
    refine Stuck.not_ok (t := t) ⟨⟨slot, ops', by simp [setRest]⟩, ?_⟩
    have hreads : l.readers t = n := (RwLock.hold_eq_read.mp hafter).2
    simp only [setRest, update_self, hreads]
    omega

/-- **An unguarded failure leads to a state that is not right.** -/
lemma not_ok_of_not_guarded {act : ServiceAct τ} (h : s.Inv)
    (hguard : ¬ s.Guarded act) (hs' : s.step act = some s') : ¬ s'.Ok := by
  cases act with
  | enter t entry => exact absurd trivial hguard
  | exec t isOk =>
    simp only [Guarded, not_forall] at hguard
    rcases hguard with ⟨op, hop, hnot⟩
    rcases List.head?_eq_some_iff.mp hop with ⟨ops, hrest⟩
    simp only [step, hrest] at hs'
    cases op with
    | call service slot kind =>
      rw [GuardedOp, not_or, getRadioServiceRwlock_eq] at hnot
      simp only [perform, if_neg hnot.1] at hs'
      rcases map_eq_some_iff.mp hs' with ⟨s₁, hs₁, rfl⟩
      exact not_ok_of_failed_call h hrest hnot.2 hs₁
    | lock | install | reset | onRequest => exact absurd trivial hnot

/-- **The lock is used right all along a run iff a call fails only where the read lock is held once.** -/
theorem locks_ok_iff (acts : List (ServiceAct τ)) (s : ServiceState τ) (hrun : run step init acts = some s) :
    Along step Ok init acts ↔ StepsMeet step Guarded init acts := by
  exact along_iff_stepsMeet (fun s act s' => step_inv) (fun s h => h.ok) (fun s act s' => not_ok_of_not_guarded) init_inv hrun

/-- A client connects; a response to it fails, while an indication of the other slot is under way. -/
def lockRun : List (ServiceAct (Fin 2)) :=
  [.enter 0 (.setResponseFunctions .radio .socket1 ⟨some 1, some 2⟩ [] false), .exec 0 true, .exec 0 true,
    .exec 0 true, .enter 1 (.onRequestComplete .radio .socket1 false true false), .exec 1 true,
    .enter 0 (.onUnsolicitedResponse [(.socket2, .callback .radio)]), .exec 0 true, .exec 1 false,
    .exec 0 true, .exec 0 true, .exec 1 true, .exec 1 true, .exec 1 true, .exec 1 true, .exec 1 true]

theorem locks_ok_lockRun :
    (run step init lockRun).map (fun s => (s.callbacks .radio .socket1, s.rest 0, s.rest 1))
        = some (⟨none, none⟩, [], [])
      ∧ Along step Ok init lockRun := by
  refine (and_iff_left_of_imp fun hrun => ?_).mpr (by decide)
  rcases map_eq_some_iff.mp hrun with ⟨s, hs, _⟩
  exact (locks_ok_iff lockRun s hs).mpr (by decide)

/-- A client connects, and its first request is refused when it is gone: the handler unlocks a lock it does not
hold, and returns with the read lock, so that nobody can write any more. -/
theorem refused_request_keeps_lock :
    ∃ s : ServiceState (Fin 2), run step init
        [.enter 0 (.setResponseFunctions .radio .socket1 ⟨some 1, some 2⟩ [] false), .exec 0 true,
          .exec 0 true, .exec 0 true, .enter 0 (.request .radio .socket1 .refused), .exec 0 false,
          .exec 0 true, .exec 0 true, .exec 0 true, .exec 0 true] = some s
      ∧ s.misused = true ∧ s.rest 0 = [] ∧ (s.locks .radioServiceRwlock).readers 0 = 1
      ∧ (s.locks .radioServiceRwlock).exec 1 .wrlock = none ∧ ¬ s.Ok := by
  refine ⟨_, rfl, rfl, rfl, rfl, rfl, fun hok => ?_⟩
  exact absurd hok.right (by decide)

end ServiceState

end Hal
