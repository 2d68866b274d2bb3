import DeviceHal.Ril.Requests

/-!
# Device identities

The vendor does not support `RIL_REQUEST_DEVICE_IDENTITY`.  When a client asks for it the daemon first asks the vendor
for the IMEI and the IMEISV itself, and `RIL_onRequestComplete` stores in `Device_ID` what they are completed with: not
the strings but the pointers it is given.  When the client's own request is completed the strings are read through
them.

`Ril.Requests` takes the strings as they are delivered.  Here the memory of the vendor is a part of the state, and the
vendor may write to a buffer and free it at any time; `ril.h` says that the buffers are its own.

**The defect.**  A buffer may be written to or freed while `Device_ID` points to it.

* `latest` — what was delivered last for a slot, read off the history.
* `Inv.step` — as long as the vendor keeps the buffers that are pointed to, what is read through the pointers is what
  was delivered last, and is what `Ril.Requests` says.
* **`identity_fresh`** — then every answer has the strings that were delivered last for its slot.
-/

namespace Hal

open List Option Function

/-- The two strings that the vendor delivers. -/
inductive IdentityString where
  | imei
  | imeisv
deriving DecidableEq

namespace IdentityString

def ofRequest (request : ℕ) : Option IdentityString :=
  if request = rilRequestGetImei then some .imei
  else if request = rilRequestGetImeisv then some .imeisv
  else none

/-- The string in what `Ril.Requests` keeps. -/
def get : IdentityString → DeviceId → Option (List UInt8)
  | .imei => DeviceId.imei
  | .imeisv => DeviceId.imeisv

instance {p : IdentityString → Prop} [DecidablePred p] : Decidable (∀ which, p which) :=
  decidable_of_iff (p .imei ∧ p .imeisv) ⟨fun h which => by cases which; exacts [h.1, h.2], fun h => ⟨h _, h _⟩⟩

end IdentityString

/-- What is delivered and answered.  A string that is read from a freed buffer is `none`. -/
inductive IdentityEvent where
  | delivered (slot : Slot) (which : IdentityString) (text : Option (List UInt8))
  | answered (slot : Slot) (imei imeisv : Option (List UInt8))
deriving DecidableEq

/-- The daemon, the pointers of `Device_ID`, and the memory of the vendor: what string is in a buffer, if it is not
free.  `events` is a ghost. -/
structure IdentityState where
  ril : RilState
  deviceId : Slot → IdentityString → Option ℕ
  buffers : ℕ → Option (List UInt8)
  events : List IdentityEvent

/-- What can happen.  A completion comes with a pointer; all else that happens to requests is `other`. -/
inductive IdentityAct where
  | complete (t : ℕ) (e : RilErrno) (response : Option ℕ)
  | other (act : RilAct)
  | write (p : ℕ) (text : List UInt8)
  | free (p : ℕ)

/-- The slot on whose list a request is. -/
def RilState.listSlot (s : RilState) (t : ℕ) : Slot := if t ∈ s.sPendingRequests .socket1 then .socket1 else .socket2

namespace IdentityState

def start (mem : ℕ → RequestInfo) (buffers : ℕ → Option (List UInt8)) : IdentityState where
  ril := .init mem
  deviceId _ _ := none
  buffers := buffers
  events := []

/-- `convertCharPtrToHidlString`: `NULL` is an empty string. -/
def read (s : IdentityState) (ptr : Option ℕ) : Option (List UInt8) :=
  match ptr with
  | none => some []
  | some p => s.buffers p

/-- The client of the slot is told its identity. -/
def Answers (cfg : RilConfig) (s : RilState) (t : ℕ) : Prop :=
  (s.mem t).pCI = rilRequestDeviceIdentity ∧ (s.mem t).cancelled = false ∧ cfg.responds (s.mem t).pCI
    ∧ s.connected (Slot.ofSocketId (s.mem t).socketId)

instance (cfg : RilConfig) (s : RilState) (t : ℕ) : Decidable (Answers cfg s t) :=
  inferInstanceAs (Decidable (_ ∧ _ ∧ _ ∧ _))

/-- What a completion does to the requests. -/
def completeRequest (cfg : RilConfig) (s : IdentityState) (t : ℕ) (e : RilErrno) (response : Option ℕ) :
    IdentityState :=
  { s with ril := s.ril.onRequestComplete cfg t e (response.bind s.buffers) }

/-- `Device_ID[i].imei = (char*) response`, or `imeisv`. -/
def deliver (s : IdentityState) (slot i : Slot) (which : IdentityString) (response : Option ℕ) : IdentityState :=
  { s with
    deviceId := update s.deviceId i (update (s.deviceId i) which response)
    events := s.events ++ [.delivered slot which (response.bind s.buffers)] }

/-- `getDeviceIdentityResponse` with `&(Device_ID[i])`. -/
def answer (s : IdentityState) (slot i : Slot) : IdentityState :=
  { s with events := s.events ++ [.answered slot (s.read (s.deviceId i .imei)) (s.read (s.deviceId i .imeisv))] }

/-- `RIL_onRequestComplete`. -/
def onRequestComplete (cfg : RilConfig) (s : IdentityState) (t : ℕ) (e : RilErrno) (response : Option ℕ) :
    IdentityState :=
  if (s.ril.checkAndDequeueRequestInfoIfAck t false).1 = false then s
  else if (s.ril.mem t).isLocal then
    match IdentityString.ofRequest (s.ril.mem t).pCI with
    | some which =>
      (s.completeRequest cfg t e response).deliver (s.ril.listSlot t) (.ofSocketId (s.ril.mem t).socketId) which
        response
    | none => s.completeRequest cfg t e response
  else if Answers cfg s.ril t then
    (s.completeRequest cfg t e response).answer (s.ril.listSlot t) (.ofSocketId (s.ril.mem t).socketId)
  else s.completeRequest cfg t e response

/-- One action.  A pointer that the vendor passes is `NULL` or points to a buffer. -/
def step (cfg : RilConfig) (s : IdentityState) : IdentityAct → Option IdentityState
  | .complete t e response =>
    if (s.read response).isSome then some (s.onRequestComplete cfg t e response) else none
  | .other (.complete _ _ _) => none
  | .other act => (s.ril.step cfg act).map fun ril => { s with ril := ril }
  | .write p text => some { s with buffers := update s.buffers p (some text) }
  | .free p => some { s with buffers := update s.buffers p none }

/-- The vendor keeps the buffers that `Device_ID` points to. -/
def Keeps (s : IdentityState) : IdentityAct → Prop
  | .write p _ => ∀ slot which, s.deviceId slot which ≠ some p
  | .free p => ∀ slot which, s.deviceId slot which ≠ some p
  | _ => True

instance (s : IdentityState) : DecidablePred s.Keeps
  | .write p _ => inferInstanceAs (Decidable (∀ slot which, s.deviceId slot which ≠ some p))
  | .free p => inferInstanceAs (Decidable (∀ slot which, s.deviceId slot which ≠ some p))
  | .complete _ _ _ | .other _ => isTrue trivial

end IdentityState

/-! ## What is asked of it -/

/-- What an event leaves of the string delivered last. -/
def IdentityEvent.after (slot : Slot) (which : IdentityString) (last : Option (List UInt8)) :
    IdentityEvent → Option (List UInt8)
  | .delivered slot' which' text => if slot' = slot ∧ which' = which then text else last
  | .answered _ _ _ => last

/-- The string that was delivered last for a slot. -/
def latest (events : List IdentityEvent) (slot : Slot) (which : IdentityString) : Option (List UInt8) :=
  events.foldl (IdentityEvent.after slot which) none

/-- An answer has the strings that were delivered last for its slot; there is nothing to ask of a delivery. -/
def IdentityEvent.FreshAfter (before : List IdentityEvent) : IdentityEvent → Prop
  | .delivered _ _ _ => True
  | .answered slot imei imeisv =>
    imei = some ((latest before slot .imei).getD []) ∧ imeisv = some ((latest before slot .imeisv).getD [])

def Fresh (events : List IdentityEvent) : Prop :=
  ∀ before e after, events = before ++ e :: after → e.FreshAfter before

lemma latest_concat (events : List IdentityEvent) (e : IdentityEvent) (slot : Slot) (which : IdentityString) :
    latest (events ++ [e]) slot which = e.after slot which (latest events slot which) := by
  rw [latest, foldl_append]
  rfl

lemma fresh_nil : Fresh [] := fun before e after h => by simp at h

lemma Fresh.concat {events : List IdentityEvent} {e : IdentityEvent} (h : Fresh events) (he : e.FreshAfter events) :
    Fresh (events ++ [e]) := by
  intro before e' after heq
  rcases eq_nil_or_concat after with rfl | ⟨after', last, rfl⟩
  · obtain ⟨rfl, hlast⟩ := append_inj' heq rfl
    obtain rfl := singleton_inj.mp hlast
    exact he
  · rw [concat_eq_append, ← cons_append, ← append_assoc] at heq
    exact h before e' after' (append_inj' heq rfl).1

/-! ## What happens to the requests -/

namespace RilState

variable {s : RilState} {t : ℕ}

lemma listSlot_eq (h : s.Inv) (ht : s.IsPending t) : s.listSlot t = .ofSocketId (s.mem t).socketId := by
  obtain ⟨slot, hmem⟩ := ht
  rw [h.slot_eq slot t hmem, listSlot]
  by_cases hfirst : t ∈ s.sPendingRequests .socket1
  · rw [if_pos hfirst, ← h.slot_eq _ t hfirst, h.slot_eq slot t hmem]
  · rw [if_neg hfirst]
    cases slot with
    | socket1 => exact absurd hmem hfirst
    | socket2 => rfl

lemma isPending_of_dequeued (h : (s.checkAndDequeueRequestInfoIfAck t false).1 ≠ false) : s.IsPending t := by
  by_contra hnot
  rw [checkAndDequeue_not_pending hnot] at h
  exact h rfl

lemma deviceId_respond (s : RilState) (slot : Slot) (ri : RequestInfo) (responseType : ResponseType) (err : RilErrno)
    (response : Response) : (s.respond slot ri responseType err response).deviceId = s.deviceId := by
  obtain ⟨as, has, -, -⟩ := respond_spec s slot ri responseType err response
  rw [has]

lemma deviceId_completeLocal (s : RilState) (ri : RequestInfo) (response : Option (List UInt8)) (slot : Slot)
    (which : IdentityString) :
    which.get ((s.completeLocal ri response).deviceId slot)
      = if .ofSocketId ri.socketId = slot ∧ IdentityString.ofRequest ri.pCI = some which then response
        else which.get (s.deviceId slot) := by
  by_cases hslot : .ofSocketId ri.socketId = slot
  · subst hslot
    unfold completeLocal IdentityString.ofRequest
    by_cases himei : ri.pCI = rilRequestGetImei
    · cases which <;> simp [himei, IdentityString.get]
    · by_cases himeisv : ri.pCI = rilRequestGetImeisv
      · cases which <;> simp [himeisv, IdentityString.get, rilRequestGetImei, rilRequestGetImeisv]
      · simp [himei, himeisv]
  · have hother : ∀ new, update s.deviceId (.ofSocketId ri.socketId) new slot = s.deviceId slot := fun new =>
      update_of_ne (Ne.symm hslot) new s.deviceId
    have hkept : (s.completeLocal ri response).deviceId slot = s.deviceId slot := by
      unfold completeLocal
      split_ifs
      exacts [hother _, hother _, rfl]
    rw [hkept, if_neg fun hand => hslot hand.1]

lemma deviceId_onRequestComplete (cfg : RilConfig) (h : s.Inv) (ht : s.IsPending t)
    (e : RilErrno) (response : Option (List UInt8)) (slot : Slot) (which : IdentityString) :
    which.get ((s.onRequestComplete cfg t e response).deviceId slot)
      = if (s.mem t).isLocal ∧ .ofSocketId (s.mem t).socketId = slot
            ∧ IdentityString.ofRequest (s.mem t).pCI = some which then response
        else which.get (s.deviceId slot) := by
  obtain ⟨slot', hmem⟩ := ht
  simp only [onRequestComplete, checkAndDequeue_pending h hmem]
  by_cases hlocal : (s.mem t).isLocal
  · rw [if_pos hlocal, deviceId_completeLocal]
    simp [hlocal]
  · rw [if_neg hlocal, if_neg fun hand => hlocal hand.1]
    obtain ⟨ecops, as, hclient, -, -⟩ := completeClient_spec cfg
      { s with
        sPendingRequests := update s.sPendingRequests slot' ((s.sPendingRequests slot').erase t)
        completed := s.completed ++ [(s.mem t).rid] } (s.mem t) e response
    rw [hclient]

lemma deviceId_request {cfg : RilConfig} {s' : RilState} {serial : ℤ} {slot : Slot} {request : ℕ} {pRI : Option ℕ}
    {steps : List MarshalStep} (hs' : s.request cfg serial slot request pRI steps = some s') :
    s'.deviceId = s.deviceId := by
  cases pRI with
  | none =>
    cases hs'
    rfl
  | some pRI =>
    simp only [RilState.request] at hs'
    split_ifs at hs'
    cases hm : marshal steps with
    | ready | dropped =>
      rw [hm] at hs'
      cases hs'
      rfl
    | error err =>
      simp only [hm, sendErrorResponse] at hs'
      obtain ⟨-, rfl⟩ := ite_some_none_eq_some.mp hs'
      rw [deviceId_respond]
      rfl

lemma deviceId_onRequestAck (s : RilState) (t : ℕ) : (s.onRequestAck t).deviceId = s.deviceId := by
  unfold onRequestAck checkAndDequeueRequestInfoIfAck
  dsimp only
  split_ifs <;> rfl

lemma deviceId_step {cfg : RilConfig} {s' : RilState} {act : RilAct} (hs' : s.step cfg act = some s')
    (hact : ∀ t e response, act ≠ .complete t e response) : s'.deviceId = s.deviceId := by
  cases act with
  | request serial slot request pRI steps => exact deviceId_request hs'
  | complete t e response => exact absurd rfl (hact t e response)
  | ack t =>
    cases hs'
    exact deviceId_onRequestAck s t
  | connect slot | disconnect slot =>
    cases hs'
    rfl
  | scribble t ri =>
    obtain ⟨-, rfl⟩ := ite_some_none_eq_some.mp hs'
    rfl

end RilState

/-! ## Every run -/

namespace IdentityState

/-- What is read through a pointer is what was delivered last, and is what `Ril.Requests` keeps; and every answer had
it. -/
structure Inv (s : IdentityState) : Prop where
  ril : s.ril.Inv
  held : ∀ slot which, s.read (s.deviceId slot which) = some ((latest s.events slot which).getD [])
  value : ∀ slot which, which.get (s.ril.deviceId slot) = latest s.events slot which
  fresh : Fresh s.events

lemma start_inv (mem : ℕ → RequestInfo) (buffers : ℕ → Option (List UInt8)) : (start mem buffers).Inv where
  ril := RilState.init_inv mem
  held _ _ := rfl
  value _ which := by cases which <;> rfl
  fresh := fresh_nil

variable {s : IdentityState}

lemma Inv.buffers (h : s.Inv) {p : ℕ} {content : Option (List UInt8)}
    (hp : ∀ slot which, s.deviceId slot which ≠ some p) : { s with buffers := update s.buffers p content }.Inv where
  ril := h.ril
  held slot which := by
    rw [← h.held slot which]
    cases hptr : s.deviceId slot which with
    | none => rfl
    | some q =>
      have hne : q ≠ p := fun heq => hp slot which (heq ▸ hptr)
      exact update_of_ne hne _ _
  value := h.value
  fresh := h.fresh

lemma Inv.requests (h : s.Inv) {ril : RilState} (hril : ril.Inv)
    (hdevice : ∀ slot which, IdentityString.get which (ril.deviceId slot) = which.get (s.ril.deviceId slot)) :
    { s with ril := ril }.Inv where
  ril := hril
  held := h.held
  value slot which := (hdevice slot which).trans (h.value slot which)
  fresh := h.fresh

lemma latest_answer (s : IdentityState) (slot i slot' : Slot) (which : IdentityString) :
    latest (s.answer slot i).events slot' which = latest s.events slot' which := latest_concat _ _ _ _

lemma latest_deliver (s : IdentityState) (slot i slot' : Slot) (which which' : IdentityString) (response : Option ℕ) :
    latest (s.deliver slot i which response).events slot' which'
      = if slot = slot' ∧ which = which' then response.bind s.buffers else latest s.events slot' which' :=
  latest_concat _ _ _ _

lemma deviceId_deliver (s : IdentityState) (slot i slot' : Slot) (which which' : IdentityString) (response : Option ℕ) :
    (s.deliver slot i which response).deviceId slot' which'
      = if i = slot' ∧ which = which' then response else s.deviceId slot' which' := by
  by_cases hslot : slot' = i
  · subst hslot
    simp [deliver, update_apply, eq_comm]
  · simp [deliver, update_of_ne hslot, Ne.symm hslot]

/-- **An answer** is what is read through the pointers. -/
lemma Inv.answer (h : s.Inv) (slot : Slot) : (s.answer slot slot).Inv where
  ril := h.ril
  held slot' which := by
    rw [latest_answer]
    exact h.held slot' which
  value slot' which := by
    rw [latest_answer]
    exact h.value slot' which
  fresh := h.fresh.concat ⟨h.held slot .imei, h.held slot .imeisv⟩

variable {response : Option ℕ}

lemma read_eq_of_live (hlive : (s.read response).isSome) :
    s.read response = some ((response.bind s.buffers).getD []) := by
  cases response with
  | none => rfl
  | some p =>
    obtain ⟨text, htext⟩ := isSome_iff_exists.mp hlive
    have hbuffer : s.buffers p = some text := htext
    rw [htext, bind_some, hbuffer, getD_some]

/-- **A delivery** sets the pointer to where the string is. -/
lemma Inv.deliver (h : s.Inv) {ril : RilState} (hril : ril.Inv) {slot : Slot}
    {which : IdentityString} (hlive : (s.read response).isSome)
    (hdevice : ∀ slot' which', IdentityString.get which' (ril.deviceId slot')
      = if slot = slot' ∧ which = which' then response.bind s.buffers else which'.get (s.ril.deviceId slot')) :
    ({ s with ril := ril }.deliver slot slot which response).Inv where
  ril := hril
  held slot' which' := by
    rw [latest_deliver, deviceId_deliver]
    by_cases hsame : slot = slot' ∧ which = which'
    · rw [if_pos hsame, if_pos hsame]
      exact read_eq_of_live hlive
    · rw [if_neg hsame, if_neg hsame]
      exact h.held slot' which'
  value slot' which' := by
    rw [latest_deliver, ← h.value slot' which']
    exact hdevice slot' which'
  fresh := h.fresh.concat trivial

lemma Inv.onRequestComplete {cfg : RilConfig} (h : s.Inv) (t : ℕ) (e : RilErrno)
    (hlive : (s.read response).isSome) : (s.onRequestComplete cfg t e response).Inv := by
  unfold IdentityState.onRequestComplete
  by_cases hdequeued : (s.ril.checkAndDequeueRequestInfoIfAck t false).1 = false
  · rw [if_pos hdequeued]
    exact h
  have ht := RilState.isPending_of_dequeued hdequeued
  have hril : (s.ril.onRequestComplete cfg t e (response.bind s.buffers)).Inv :=
    RilState.step_inv h.ril (show s.ril.step cfg (.complete t e (response.bind s.buffers)) = some _ from rfl)
  have hdevice := RilState.deviceId_onRequestComplete cfg h.ril ht e (response.bind s.buffers)
  rw [if_neg hdequeued, RilState.listSlot_eq h.ril ht]
  by_cases hlocal : (s.ril.mem t).isLocal
  · rw [if_pos hlocal]
    simp only [hlocal, true_and] at hdevice
    cases hwhich : IdentityString.ofRequest (s.ril.mem t).pCI with
    | some which =>
      simp only [hwhich, Option.some.injEq] at hdevice
      exact h.deliver hril hlive hdevice
    | none =>
      simp only [hwhich, reduceCtorEq, and_false, if_false] at hdevice
      exact h.requests hril hdevice
  · rw [if_neg hlocal]
    simp only [hlocal, false_and, if_false, Bool.false_eq_true] at hdevice
    have hrequests := h.requests hril hdevice
    by_cases hanswers : Answers cfg s.ril t
    · rw [if_pos hanswers]
      exact hrequests.answer _
    · rw [if_neg hanswers]
      exact hrequests

/-- **One action.** -/
lemma Inv.step {cfg : RilConfig} {s' : IdentityState} {act : IdentityAct} (h : s.Inv) (hkeeps : s.Keeps act)
    (hs' : s.step cfg act = some s') : s'.Inv := by
  cases act with
  | complete t e response =>
    obtain ⟨hlive, rfl⟩ := ite_some_none_eq_some.mp hs'
    exact h.onRequestComplete t e hlive
  | write | free =>
    cases hs'
    exact h.buffers hkeeps
  | other act =>
    have hnot : ∀ t e response, act ≠ .complete t e response := by
      rintro t e response rfl
      cases hs'
    have hmap : (s.ril.step cfg act).map (fun ril => { s with ril := ril }) = some s' := by
      cases act <;> first | exact hs' | cases hs'
    obtain ⟨ril, hril, rfl⟩ := map_eq_some_iff.mp hmap
    refine h.requests (RilState.step_inv h.ril hril) fun slot which => ?_
    rw [RilState.deviceId_step hril hnot]

/-- **Device identities.**  In a run in which the vendor keeps the buffers that `Device_ID` points to, every answer has
the strings that the slot's most recent local completions delivered. -/
theorem identity_fresh (cfg : RilConfig) (mem : ℕ → RequestInfo) (buffers : ℕ → Option (List UInt8))
    (acts : List IdentityAct) (h : StepsMeet (step cfg) Keeps (start mem buffers) acts) :
    Along (step cfg) (fun s => Fresh s.events) (start mem buffers) acts :=
  along_of_stepsMeet (fun _ _ _ hs hkeeps hs' => hs.step hkeeps hs') (fun _ hs => hs.fresh) (start_inv mem buffers) h

/-- The vendor delivers an IMEI and an IMEISV for the second slot, something else happens, and the client asks. -/
def identityRun (meanwhile : List IdentityAct) : List IdentityAct :=
  [.write 100 [51, 53], .other (.request (-1) .socket2 rilRequestGetImei (some 8) []), .complete 8 .success (some 100),
    .write 200 [48, 49], .other (.request (-1) .socket2 rilRequestGetImeisv (some 8) []),
    .complete 8 .success (some 200)]
  ++ meanwhile
  ++ [.other (.connect .socket2), .other (.request 7 .socket2 rilRequestDeviceIdentity (some 8) []),
    .complete 8 .requestNotSupported none]

/-- The events of the run, with a response function for every request. -/
def identityEvents (meanwhile : List IdentityAct) : Option (List IdentityEvent) :=
  (run (step ⟨fun _ => true, 15⟩) (start (fun _ => default) fun _ => none) (identityRun meanwhile)).map events

/-- Meanwhile other buffers are written and freed, and an IMEI is delivered for the other slot. -/
def otherBuffers : List IdentityAct :=
  [.write 300 [57], .other (.request (-1) .socket1 rilRequestGetImei (some 16) []), .complete 16 .success (some 300),
    .write 400 [56], .free 400]

theorem identity_fresh_otherBuffers :
    StepsMeet (step ⟨fun _ => true, 15⟩) Keeps (start (fun _ => default) fun _ => none) (identityRun otherBuffers)
      ∧ Along (step ⟨fun _ => true, 15⟩) (fun s => Fresh s.events) (start (fun _ => default) fun _ => none)
          (identityRun otherBuffers)
      ∧ identityEvents otherBuffers = some
          [.delivered .socket2 .imei (some [51, 53]), .delivered .socket2 .imeisv (some [48, 49]),
            .delivered .socket1 .imei (some [57]), .answered .socket2 (some [51, 53]) (some [48, 49])] := by
  refine (and_iff_left_of_imp fun hkeeps => ?_).mpr (by decide +kernel)
  exact ⟨identity_fresh _ _ _ _ hkeeps, by decide +kernel⟩

/-- **The defect**: the vendor writes the next string to the buffer of the IMEI, or frees it; the client is told the
wrong one, or whatever is there. -/
theorem identity_overwritten :
    (identityEvents [.write 100 [57]] = some
        [.delivered .socket2 .imei (some [51, 53]), .delivered .socket2 .imeisv (some [48, 49]),
          .answered .socket2 (some [57]) (some [48, 49])]
      ∧ ¬ Fresh [.delivered .socket2 .imei (some [51, 53]), .delivered .socket2 .imeisv (some [48, 49]),
          .answered .socket2 (some [57]) (some [48, 49])])
      ∧ identityEvents [.free 100] = some
        [.delivered .socket2 .imei (some [51, 53]), .delivered .socket2 .imeisv (some [48, 49]),
          .answered .socket2 none (some [48, 49])] := by
  refine ⟨⟨by decide +kernel, fun hfresh => ?_⟩, by decide +kernel⟩
  have hanswer := hfresh [.delivered .socket2 .imei (some [51, 53]), .delivered .socket2 .imeisv (some [48, 49])]
    (.answered .socket2 (some [57]) (some [48, 49])) [] rfl
  exact absurd hanswer.1 (by decide)

/-- **The strings by value.**  In such a run what is read through the pointers is what `Ril.Requests` keeps. -/
theorem read_eq_deviceId (cfg : RilConfig) (mem : ℕ → RequestInfo) (buffers : ℕ → Option (List UInt8))
    (acts : List IdentityAct) (h : StepsMeet (step cfg) Keeps (start mem buffers) acts) :
    Along (step cfg) (fun s => ∀ slot which,
      s.read (s.deviceId slot which) = some ((which.get (s.ril.deviceId slot)).getD [])) (start mem buffers) acts :=
  along_of_stepsMeet (fun _ _ _ hs hkeeps hs' => hs.step hkeeps hs')
    (fun _ hs slot which => by rw [hs.held, hs.value]) (start_inv mem buffers) h

theorem read_eq_deviceId_otherBuffers :
    Along (step ⟨fun _ => true, 15⟩) (fun s => ∀ slot which,
      s.read (s.deviceId slot which) = some ((which.get (s.ril.deviceId slot)).getD []))
      (start (fun _ => default) fun _ => none) (identityRun otherBuffers) :=
  read_eq_deviceId _ _ _ _ (by decide +kernel)

end IdentityState

end Hal
