import DeviceHal.Core.Machine
import DeviceHal.Core.Queues
import DeviceHal.Ril.Marshal
import DeviceHal.Ril.Commands

/-!
# Requests: from the client to the vendor and back

A request of the radio client is put on its slot's pending list (`addRequestToList`), its
arguments are copied into C structures, and it is handed to the vendor library together with a
*token*, which is the address of its `RequestInfo`.  The vendor acknowledges and completes by
token; `checkAndDequeueRequestInfoIfAck` looks for that address on the pending list of the slot
that the `RequestInfo` names.

Addresses are all the code has: `RilState.mem` is the memory behind them, freed `RequestInfo`s keep
a stale and changing content, and `calloc` may give a freed address out again.  `rid` is a ghost,
one number for each request ever accepted.

**The defect.**  When copying the arguments fails, and for every method the device does not
support, `sendErrorResponse` answers the client and leaves the request on the list, where the
vendor, which never saw it, will not complete it.  `requests_tracked_iff`: the pending lists are
what they should be all along a run **iff** every request the run puts on a list passes the
copying of its arguments.
-/

namespace Hal

open List Function

/-! ## The pending lists -/

/-- `RequestInfo`, less `p_next`, which is the order of the list, and `cid`.  `pCI` is an index of
`s_commands`, which is also the request number of that row.  `rid` is a ghost. -/
structure RequestInfo where
  token : ℤ
  pCI : ℕ
  cancelled : Bool
  isLocal : Bool
  socketId : ℤ
  wasAckSent : Bool
  rid : ℕ
deriving DecidableEq, Inhabited

/-- What the daemon keeps of a SIM for `RIL_REQUEST_DEVICE_IDENTITY`. -/
structure DeviceId where
  imei : Option (List UInt8)
  imeisv : Option (List UInt8)
deriving DecidableEq, Inhabited

/-- The payload of an answer: what the vendor passed, or `Device_ID[slot]`. -/
inductive Response where
  | data (bytes : Option (List UInt8))
  | identity (deviceId : DeviceId)
deriving DecidableEq

/-- A call of a response function that reached a client. -/
structure Answer where
  rid : ℕ
  slot : Slot
  token : ℤ
  responseType : ResponseType
  err : RilErrno
  response : Response
deriving DecidableEq

/-- The daemon, as far as requests go.  `connected` says whether the slot's `mRadioResponse` is
set.  The ghosts are `nextRid`, the requests handed to the vendor, those completed, those answered
by `sendErrorResponse`, and all answers. -/
structure RilState where
  mem : ℕ → RequestInfo
  sPendingRequests : Slot → List ℕ
  deviceId : Slot → DeviceId
  prevEcopsData : Slot → Option (List UInt8)
  connected : Slot → Bool
  nextRid : ℕ
  handed : List (Slot × ℕ)
  completed : List ℕ
  rejected : List ℕ
  answered : List Answer

/-- What the daemon is configured with: which entries of `s_commands` have a response function,
and `s_callbacksSocket.version`. -/
structure RilConfig where
  responds : ℕ → Bool
  version : ℕ

def rilRequestGetImei : ℕ := 38
def rilRequestGetImeisv : ℕ := 39
def rilRequestDeviceIdentity : ℕ := 98

def rilRequestResumeRegistration : ℕ := 2065

namespace RilState

/-- No request yet; `mem` is whatever the heap holds. -/
def init (mem : ℕ → RequestInfo) : RilState where
  mem := mem
  sPendingRequests _ := []
  deviceId _ := ⟨none, none⟩
  prevEcopsData _ := none
  connected _ := false
  nextRid := 0
  handed := []
  completed := []
  rejected := []
  answered := []

def IsPending (s : RilState) (t : ℕ) : Prop := ∃ slot, t ∈ s.sPendingRequests slot

/-- `addRequestToList`, with the address `calloc` returned. -/
def addRequestToList (s : RilState) (serial : ℤ) (slot : Slot) (request : ℕ) (pRI : ℕ) : RilState :=
  { s with
    mem := update s.mem pRI
      { token := serial, pCI := requestIndex request, cancelled := false,
        isLocal := serial == -1, socketId := slot.id, wasAckSent := false, rid := s.nextRid }
    sPendingRequests :=
      update s.sPendingRequests slot (pRI :: s.sPendingRequests slot)
    nextRid := s.nextRid + 1 }

/-- A response function: it calls the client if there is one. -/
def respond (s : RilState) (slot : Slot) (ri : RequestInfo) (responseType : ResponseType)
    (err : RilErrno) (response : Response) : RilState :=
  if s.connected slot then
    { s with answered := s.answered ++ [⟨ri.rid, slot, ri.token, responseType, err, response⟩] }
  else s

/-- `sendErrorResponse`.  A command without a response function would be a call through `NULL`. -/
def sendErrorResponse (cfg : RilConfig) (s : RilState) (pRI : ℕ) (err : RilErrno) : Option RilState :=
  let ri := s.mem pRI
  if cfg.responds ri.pCI then
    some ({ s with rejected := s.rejected ++ [ri.rid] }.respond (.ofSocketId ri.socketId) ri
      .solicited err (.data none))
  else none

/-- `my_enqueue`, built without `RIL_CHANNEL_QUEUING`: `onRequest` at once. -/
def myEnqueue (s : RilState) (pRI : ℕ) : RilState :=
  { s with handed := s.handed ++ [(.ofSocketId (s.mem pRI).socketId, (s.mem pRI).rid)] }

/-- A request of the client, or a local one (`serial == -1`): onto the list, copy the arguments,
hand over.  `calloc` returns `NULL` or an address that is not in use. -/
def request (cfg : RilConfig) (s : RilState) (serial : ℤ) (slot : Slot) (request : ℕ)
    (pRI : Option ℕ) (steps : List MarshalStep) : Option RilState :=
  match pRI with
  | none => some s
  | some pRI =>
    if pRI ≠ 0 ∧ ∀ slot, pRI ∉ s.sPendingRequests slot then
      let s := s.addRequestToList serial slot request pRI
      match marshal steps with
      | .ready => some (s.myEnqueue pRI)
      | .error err => s.sendErrorResponse cfg pRI err
      | .dropped => some s
    else none

/-- `checkAndDequeueRequestInfoIfAck`.  Whatever the token points at, its `socket_id` selects the
list; only the address is compared. -/
def checkAndDequeueRequestInfoIfAck (s : RilState) (pRI : ℕ) (isAck : Bool) : Bool × RilState :=
  let slot := Slot.ofSocketId (s.mem pRI).socketId
  if pRI = 0 ∨ pRI ∉ s.sPendingRequests slot then (false, s)
  else if isAck then
    (true, { s with mem := update s.mem pRI { s.mem pRI with wasAckSent := true } })
  else
    (true, { s with
      sPendingRequests :=
        update s.sPendingRequests slot ((s.sPendingRequests slot).erase pRI) })

/-- `RIL_onRequestAck`.  The acknowledgement that goes to the client is no answer. -/
def onRequestAck (s : RilState) (t : ℕ) : RilState := (s.checkAndDequeueRequestInfoIfAck t true).2

/-- The branch of `RIL_onRequestComplete` for a locally issued command. -/
def completeLocal (s : RilState) (ri : RequestInfo) (response : Option (List UInt8)) : RilState :=
  let slot := Slot.ofSocketId ri.socketId
  if ri.pCI = rilRequestGetImei then
    { s with deviceId := update s.deviceId slot { s.deviceId slot with imei := response } }
  else if ri.pCI = rilRequestGetImeisv then
    { s with deviceId := update s.deviceId slot { s.deviceId slot with imeisv := response } }
  else s

/-- The branch for a request of the client. -/
def completeClient (cfg : RilConfig) (s : RilState) (ri : RequestInfo) (e : RilErrno)
    (response : Option (List UInt8)) : RilState :=
  let slot := Slot.ofSocketId ri.socketId
  -- handle unsupported but necessary requests
  let (e, response) :=
    if ri.pCI = rilRequestDeviceIdentity then (.success, .identity (s.deviceId slot))
    else (e, .data response)
  let s :=
    if ri.pCI = rilRequestResumeRegistration then
      { s with prevEcopsData := update s.prevEcopsData slot none }
    else s
  if ri.cancelled = false ∧ cfg.responds ri.pCI then
    s.respond slot ri
      (if cfg.version ≥ 13 ∧ ri.wasAckSent then .solicitedAckExp else .solicited) e response
  else s

/-- `RIL_onRequestComplete`.  The `free` at its end shows in that the address may be given out
again. -/
def onRequestComplete (cfg : RilConfig) (s : RilState) (t : ℕ) (e : RilErrno)
    (response : Option (List UInt8)) : RilState :=
  match s.checkAndDequeueRequestInfoIfAck t false with
  | (false, _) => s
  | (true, s) =>
    let ri := s.mem t
    let s := { s with completed := s.completed ++ [ri.rid] }
    if ri.isLocal then s.completeLocal ri response else s.completeClient cfg ri e response

/-! ## Runs -/

end RilState

/-- What the client, the vendor, the daemon itself and the heap may do.  `scribble` is some other
use of memory that is not a pending `RequestInfo`. -/
inductive RilAct where
  | request (serial : ℤ) (slot : Slot) (request : ℕ) (pRI : Option ℕ) (steps : List MarshalStep)
  | complete (t : ℕ) (e : RilErrno) (response : Option (List UInt8))
  | ack (t : ℕ)
  | connect (slot : Slot)
  | disconnect (slot : Slot)
  | scribble (t : ℕ) (ri : RequestInfo)

namespace RilState

def step (cfg : RilConfig) (s : RilState) : RilAct → Option RilState
  | .request serial slot request pRI steps => s.request cfg serial slot request pRI steps
  | .complete t e response => some (s.onRequestComplete cfg t e response)
  | .ack t => some (s.onRequestAck t)
  | .connect slot => some { s with connected := update s.connected slot true }
  | .disconnect slot => some { s with connected := update s.connected slot false }
  | .scribble t ri =>
    if ∀ slot, t ∉ s.sPendingRequests slot then
      some { s with mem := update s.mem t ri }
    else none

/-- What holds whatever the arguments: a listed `RequestInfo` names the slot of its list, and each
accepted request is on the lists, and is completed, at most once. -/
structure Inv (s : RilState) : Prop where
  nodup : ∀ slot, (s.sPendingRequests slot).Nodup
  ne_null : ∀ slot, ∀ t ∈ s.sPendingRequests slot, t ≠ 0
  slot_eq : ∀ slot, ∀ t ∈ s.sPendingRequests slot, Slot.ofSocketId (s.mem t).socketId = slot
  rid_lt : ∀ slot, ∀ t ∈ s.sPendingRequests slot, (s.mem t).rid < s.nextRid
  rid_inj : ∀ t t', s.IsPending t → s.IsPending t' → (s.mem t).rid = (s.mem t').rid → t = t'
  handed_lt : ∀ p ∈ s.handed, p.2 < s.nextRid
  completed_lt : ∀ rid ∈ s.completed, rid < s.nextRid
  completed_not_pending : ∀ t, s.IsPending t → (s.mem t).rid ∉ s.completed

lemma init_inv (mem : ℕ → RequestInfo) : (init mem).Inv where
  nodup _ := nodup_nil
  ne_null := by simp [init]
  slot_eq := by simp [init]
  rid_lt := by simp [init]
  rid_inj := by simp [init, IsPending]
  handed_lt := by simp [init]
  completed_lt := by simp [init]
  completed_not_pending := by simp [init, IsPending]

variable {s s' : RilState} {slot : Slot} {t pRI : ℕ} {steps : List MarshalStep}

/-- **A completion by a pending token** takes that request off its list. -/
lemma checkAndDequeue_pending (h : s.Inv) (ht : t ∈ s.sPendingRequests slot) :
    s.checkAndDequeueRequestInfoIfAck t false = (true, { s with
      sPendingRequests :=
        update s.sPendingRequests slot ((s.sPendingRequests slot).erase t) }) := by
  have hslot := h.slot_eq slot t ht
  simp [checkAndDequeueRequestInfoIfAck, hslot, h.ne_null slot t ht, ht]

/-- **A completion or an acknowledgement by any other token** changes nothing. -/
lemma checkAndDequeue_not_pending (ht : ¬ s.IsPending t) (isAck : Bool) :
    s.checkAndDequeueRequestInfoIfAck t isAck = (false, s) := by
  have hnot : t ∉ s.sPendingRequests (Slot.ofSocketId (s.mem t).socketId) := fun hmem =>
    ht ⟨_, hmem⟩
  simp [checkAndDequeueRequestInfoIfAck, hnot]

/-! ## What a step can do to the lists

Every action does one of three things, and all invariants below are derived from these three. -/

structure Kept (s s' : RilState) : Prop where
  pending_eq : s'.sPendingRequests = s.sPendingRequests
  nextRid_eq : s'.nextRid = s.nextRid
  handed_eq : s'.handed = s.handed
  completed_eq : s'.completed = s.completed
  rejected_eq : s'.rejected = s.rejected
  answered_eq : s'.answered = s.answered
  info_eq : ∀ t, s.IsPending t →
    (s'.mem t).rid = (s.mem t).rid ∧ (s'.mem t).socketId = (s.mem t).socketId

/-- A request is put at the head of a list; it is handed to the vendor exactly when its steps
pass. -/
structure Added (s s' : RilState) (slot : Slot) (pRI : ℕ) (steps : List MarshalStep) : Prop where
  ne_null : pRI ≠ 0
  fresh : ¬ s.IsPending pRI
  pending_eq : s'.sPendingRequests
    = update s.sPendingRequests slot (pRI :: s.sPendingRequests slot)
  rid_eq : (s'.mem pRI).rid = s.nextRid
  slot_eq : Slot.ofSocketId (s'.mem pRI).socketId = slot
  others : ∀ t, t ≠ pRI → s'.mem t = s.mem t
  nextRid_eq : s'.nextRid = s.nextRid + 1
  completed_eq : s'.completed = s.completed
  handed_eq : s'.handed
    = if marshal steps = .ready then s.handed ++ [(slot, s.nextRid)] else s.handed
  quiet : marshal steps = .ready → s'.rejected = s.rejected ∧ s'.answered = s.answered

/-- A request leaves its list, completed, and is answered at most once in that. -/
structure Removed (s s' : RilState) (slot : Slot) (t : ℕ) : Prop where
  mem_pending : t ∈ s.sPendingRequests slot
  pending_eq : s'.sPendingRequests
    = update s.sPendingRequests slot ((s.sPendingRequests slot).erase t)
  mem_eq : s'.mem = s.mem
  nextRid_eq : s'.nextRid = s.nextRid
  handed_eq : s'.handed = s.handed
  completed_eq : s'.completed = s.completed ++ [(s.mem t).rid]
  rejected_eq : s'.rejected = s.rejected
  answers : ∃ as : List Answer, s'.answered = s.answered ++ as ∧ as.length ≤ 1
    ∧ ∀ a ∈ as, a.rid = (s.mem t).rid

lemma Kept.refl (s : RilState) : Kept s s := ⟨rfl, rfl, rfl, rfl, rfl, rfl, fun _ _ => ⟨rfl, rfl⟩⟩

/-- Answering, and everything else after the request left its list, touches neither lists nor
ghosts other than the answers. -/
lemma respond_spec (s : RilState) (slot : Slot) (ri : RequestInfo) (responseType : ResponseType)
    (err : RilErrno) (response : Response) :
    ∃ as : List Answer, s.respond slot ri responseType err response
        = { s with answered := s.answered ++ as }
      ∧ as.length ≤ 1 ∧ ∀ a ∈ as, a.rid = ri.rid := by
  unfold respond
  split_ifs
  · exact ⟨_, rfl, le_refl _, by simp⟩
  · exact ⟨[], by simp, Nat.zero_le _, by simp⟩

lemma completeLocal_spec (s : RilState) (ri : RequestInfo) (response : Option (List UInt8)) :
    ∃ deviceId, s.completeLocal ri response = { s with deviceId := deviceId } := by
  unfold completeLocal
  split_ifs
  exacts [⟨_, rfl⟩, ⟨_, rfl⟩, ⟨_, rfl⟩]

lemma completeClient_spec (cfg : RilConfig) (s : RilState) (ri : RequestInfo) (e : RilErrno)
    (response : Option (List UInt8)) :
    ∃ (prevEcopsData : Slot → Option (List UInt8)) (as : List Answer),
      s.completeClient cfg ri e response
          = { s with prevEcopsData := prevEcopsData, answered := s.answered ++ as }
        ∧ as.length ≤ 1 ∧ ∀ a ∈ as, a.rid = ri.rid := by
  unfold completeClient
  dsimp only
  generalize hs' : (if ri.pCI = rilRequestResumeRegistration then
    { s with prevEcopsData := update s.prevEcopsData (Slot.ofSocketId ri.socketId) none }
    else s) = s'
  have hecops : ∃ prevEcopsData, s' = { s with prevEcopsData := prevEcopsData } := by
    rw [← hs']
    split_ifs
    exacts [⟨_, rfl⟩, ⟨_, rfl⟩]
  rcases hecops with ⟨prevEcopsData, rfl⟩
  by_cases hanswer : ri.cancelled = false ∧ cfg.responds ri.pCI
  · rw [if_pos hanswer]
    rcases respond_spec { s with prevEcopsData := prevEcopsData } _ ri _ _ _ with
      ⟨as, has, hlen, hrid⟩
    exact ⟨prevEcopsData, as, has, hlen, hrid⟩
  · rw [if_neg hanswer]
    exact ⟨prevEcopsData, [], by simp, Nat.zero_le _, by simp⟩

lemma onRequestComplete_pending (cfg : RilConfig) (h : s.Inv)
    (ht : t ∈ s.sPendingRequests slot) (e : RilErrno) (response : Option (List UInt8)) :
    Removed s (s.onRequestComplete cfg t e response) slot t := by
  simp only [onRequestComplete, checkAndDequeue_pending h ht]
  split_ifs
  · rcases completeLocal_spec _ (s.mem t) response with ⟨deviceId, hlocal⟩
    rw [hlocal]
    exact ⟨ht, rfl, rfl, rfl, rfl, rfl, rfl, [], by simp, Nat.zero_le _, by simp⟩
  · rcases completeClient_spec cfg _ (s.mem t) e response with ⟨ecops, as, hclient, hlen, hrid⟩
    rw [hclient]
    exact ⟨ht, rfl, rfl, rfl, rfl, rfl, rfl, as, rfl, hlen, hrid⟩

lemma onRequestComplete_not_pending (cfg : RilConfig)
    (ht : ¬ s.IsPending t) (e : RilErrno) (response : Option (List UInt8)) :
    s.onRequestComplete cfg t e response = s := by
  simp only [onRequestComplete, checkAndDequeue_not_pending ht]

lemma onRequestAck_not_pending (ht : ¬ s.IsPending t) : s.onRequestAck t = s := by
  simp only [onRequestAck, checkAndDequeue_not_pending ht]

lemma onRequestAck_kept (s : RilState) (t : ℕ) : Kept s (s.onRequestAck t) := by
  unfold onRequestAck checkAndDequeueRequestInfoIfAck
  dsimp only
  rw [if_pos rfl]
  split_ifs
  · exact Kept.refl s
  · refine ⟨rfl, rfl, rfl, rfl, rfl, rfl, fun t' _ => ?_⟩
    by_cases htt : t' = t
    · subst htt
      simp
    · simp [update_of_ne htt]

lemma added_of_addRequestToList (serial : ℤ) (slot : Slot) (request : ℕ) (hnull : pRI ≠ 0) (hfresh : ¬ s.IsPending pRI)
    {handed : List (Slot × ℕ)} {rejected : List ℕ} {answered : List Answer}
    (hhanded : handed = if marshal steps = .ready then s.handed ++ [(slot, s.nextRid)] else s.handed)
    (hquiet : marshal steps = .ready → rejected = s.rejected ∧ answered = s.answered) :
    Added s { s.addRequestToList serial slot request pRI with handed, rejected, answered } slot pRI steps where
  ne_null := hnull
  fresh := hfresh
  pending_eq := rfl
  rid_eq := by simp [addRequestToList]
  slot_eq := by simp [addRequestToList]
  others t ht := by simp [addRequestToList, ht]
  nextRid_eq := rfl
  completed_eq := rfl
  handed_eq := hhanded
  quiet := hquiet

variable {cfg : RilConfig}

lemma request_spec {serial : ℤ} {request : ℕ}
    (hs' : s.request cfg serial slot request (some pRI) steps = some s') : Added s s' slot pRI steps := by
  simp only [RilState.request] at hs'
  split_ifs at hs' with hfree
  have hfresh : ¬ s.IsPending pRI := fun ⟨slot, hmem⟩ => hfree.2 slot hmem
  cases hm : marshal steps with
  | ready =>
    simp only [hm] at hs'
    cases hs'
    refine added_of_addRequestToList serial slot request hfree.1 hfresh ?_ fun _ => ⟨rfl, rfl⟩
    simp [addRequestToList, hm]
  | error err =>
    simp only [hm, sendErrorResponse] at hs'
    split_ifs at hs'
    rcases respond_spec _ _ _ _ err (.data none) with ⟨as, has, _, _⟩
    rw [has] at hs'
    cases hs'
    exact added_of_addRequestToList serial slot request hfree.1 hfresh (by simp [addRequestToList, hm]) (by simp [hm])
  | dropped =>
    simp only [hm] at hs'
    cases hs'
    exact added_of_addRequestToList serial slot request hfree.1 hfresh (by simp [hm]) (by simp [hm])

/-- **The three things a step does.** -/
lemma step_cases (h : s.Inv) {act : RilAct} (hs' : s.step cfg act = some s') :
    Kept s s'
      ∨ (∃ serial slot request pRI steps,
          act = .request serial slot request (some pRI) steps ∧ Added s s' slot pRI steps)
      ∨ ∃ slot t, Removed s s' slot t := by
  cases act with
  | request serial slot request pRI steps =>
    cases pRI with
    | none =>
      cases hs'
      exact .inl (Kept.refl s)
    | some pRI => exact .inr (.inl ⟨serial, slot, request, pRI, steps, rfl, request_spec hs'⟩)
  | complete t e response =>
    cases hs'
    by_cases ht : s.IsPending t
    · rcases ht with ⟨slot, ht⟩
      exact .inr (.inr ⟨slot, t, onRequestComplete_pending cfg h ht e response⟩)
    · rw [onRequestComplete_not_pending cfg ht]
      exact .inl (Kept.refl s)
  | ack t =>
    cases hs'
    exact .inl (onRequestAck_kept s t)
  | connect | disconnect =>
    cases hs'
    exact .inl ⟨rfl, rfl, rfl, rfl, rfl, rfl, fun _ _ => ⟨rfl, rfl⟩⟩
  | scribble t ri =>
    obtain ⟨hfree, rfl⟩ := Option.ite_some_none_eq_some.mp hs'
    refine .inl ⟨rfl, rfl, rfl, rfl, rfl, rfl, ?_⟩
    rintro t' ⟨slot, ht'⟩
    have hne : t' ≠ t := fun heq => hfree slot (heq ▸ ht')
    simp [update_of_ne hne]

/-! ## The invariant holds in every reachable state -/

lemma Added.isPending_iff (h : Added s s' slot pRI steps) {slot' : Slot} :
    t ∈ s'.sPendingRequests slot' ↔ (slot' = slot ∧ t = pRI) ∨ t ∈ s.sPendingRequests slot' := by
  rw [h.pending_eq]
  exact mem_update_cons_iff

lemma Removed.isPending_iff (hinv : s.Inv) (h : Removed s s' slot t) {slot' : Slot} {t' : ℕ} :
    t' ∈ s'.sPendingRequests slot' ↔ t' ≠ t ∧ t' ∈ s.sPendingRequests slot' := by
  rw [h.pending_eq]
  refine mem_update_erase_iff (hinv.nodup slot) fun slot'' hmem => ?_
  exact (hinv.slot_eq slot'' t hmem).symm.trans (hinv.slot_eq slot t h.mem_pending)

lemma Kept.inv (h : s.Inv) (hk : Kept s s') : s'.Inv := by
  have hpend : ∀ t, s'.IsPending t ↔ s.IsPending t := by
    intro t
    simp only [IsPending, hk.pending_eq]
  constructor
  case nodup =>
    rw [hk.pending_eq]; exact h.nodup
  case ne_null =>
    rw [hk.pending_eq]; exact h.ne_null
  case slot_eq =>
    rw [hk.pending_eq]
    intro slot t ht
    rw [(hk.info_eq t ⟨slot, ht⟩).2]
    exact h.slot_eq slot t ht
  case rid_lt =>
    rw [hk.pending_eq, hk.nextRid_eq]
    intro slot t ht
    rw [(hk.info_eq t ⟨slot, ht⟩).1]
    exact h.rid_lt slot t ht
  case rid_inj =>
    intro t t' ht ht'
    rw [hpend] at ht ht'
    rw [(hk.info_eq t ht).1, (hk.info_eq t' ht').1]
    exact h.rid_inj t t' ht ht'
  case handed_lt =>
    rw [hk.handed_eq, hk.nextRid_eq]; exact h.handed_lt
  case completed_lt =>
    rw [hk.completed_eq, hk.nextRid_eq]; exact h.completed_lt
  case completed_not_pending =>
    intro t ht
    rw [hpend] at ht
    rw [hk.completed_eq, (hk.info_eq t ht).1]
    exact h.completed_not_pending t ht

lemma Added.mem_eq (ha : Added s s' slot pRI steps) (ht : s.IsPending t) : s'.mem t = s.mem t :=
  ha.others t fun heq => ha.fresh (heq ▸ ht)

lemma Added.of_mem_handed (ha : Added s s' slot pRI steps) {p : Slot × ℕ} (hp : p ∈ s'.handed) :
    p ∈ s.handed ∨ p = (slot, s.nextRid) := by
  rw [ha.handed_eq] at hp
  split_ifs at hp
  · exact (mem_append.mp hp).imp_right mem_singleton.mp
  · exact .inl hp

lemma Added.rid_ne (h : s.Inv)
    (ha : Added s s' slot pRI steps) (ht : s.IsPending t) : (s'.mem t).rid ≠ (s'.mem pRI).rid := by
  rcases ht with ⟨slot', hmem⟩
  rw [ha.mem_eq ⟨slot', hmem⟩, ha.rid_eq]
  exact Nat.ne_of_lt (h.rid_lt slot' t hmem)

lemma Added.inv (h : s.Inv) (ha : Added s s' slot pRI steps) : s'.Inv := by
  have hpend : ∀ t, s'.IsPending t → t = pRI ∨ s.IsPending t := by
    rintro t ⟨slot', ht⟩
    exact (ha.isPending_iff.mp ht).imp And.right fun hold => ⟨slot', hold⟩
  constructor
  case nodup =>
    rw [ha.pending_eq]
    exact nodup_update h.nodup (nodup_cons.mpr ⟨fun hmem => ha.fresh ⟨slot, hmem⟩, h.nodup slot⟩)
  case ne_null =>
    intro slot' t ht
    rcases ha.isPending_iff.mp ht with ⟨_, rfl⟩ | ht
    · exact ha.ne_null
    · exact h.ne_null slot' t ht
  case slot_eq =>
    intro slot' t ht
    rcases ha.isPending_iff.mp ht with ⟨rfl, rfl⟩ | ht
    · exact ha.slot_eq
    · rw [ha.mem_eq ⟨slot', ht⟩]
      exact h.slot_eq slot' t ht
  case rid_lt =>
    intro slot' t ht
    rw [ha.nextRid_eq]
    rcases ha.isPending_iff.mp ht with ⟨_, rfl⟩ | ht
    · rw [ha.rid_eq]
      exact Nat.lt_succ_self _
    · rw [ha.mem_eq ⟨slot', ht⟩]
      exact Nat.lt_succ_of_lt (h.rid_lt slot' t ht)
  case rid_inj =>
    intro t t' ht ht' heq
    rcases hpend t ht with rfl | hp <;> rcases hpend t' ht' with rfl | hp'
    · rfl
    · exact absurd heq.symm (ha.rid_ne h hp')
    · exact absurd heq (ha.rid_ne h hp)
    · rw [ha.mem_eq hp, ha.mem_eq hp'] at heq
      exact h.rid_inj t t' hp hp' heq
  case handed_lt =>
    intro p hp
    rw [ha.nextRid_eq]
    rcases ha.of_mem_handed hp with hold | rfl
    · exact Nat.lt_succ_of_lt (h.handed_lt p hold)
    · exact Nat.lt_succ_self _
  case completed_lt =>
    intro rid hrid
    rw [ha.completed_eq] at hrid
    rw [ha.nextRid_eq]
    exact Nat.lt_succ_of_lt (h.completed_lt rid hrid)
  case completed_not_pending =>
    intro t ht hcompleted
    rw [ha.completed_eq] at hcompleted
    rcases hpend t ht with rfl | hp
    · rw [ha.rid_eq] at hcompleted
      exact absurd (h.completed_lt _ hcompleted) (lt_irrefl _)
    · rw [ha.mem_eq hp] at hcompleted
      exact h.completed_not_pending t hp hcompleted

lemma Removed.inv (h : s.Inv) (hr : Removed s s' slot t) : s'.Inv := by
  have hsub : ∀ slot' t', t' ∈ s'.sPendingRequests slot' → t' ∈ s.sPendingRequests slot' :=
    fun slot' t' ht' => ((hr.isPending_iff h).mp ht').2
  have hpend : ∀ t', s'.IsPending t' → s.IsPending t' ∧ t' ≠ t := by
    rintro t' ⟨slot', ht'⟩
    exact ⟨⟨slot', hsub slot' t' ht'⟩, ((hr.isPending_iff h).mp ht').1⟩
  constructor
  case nodup =>
    rw [hr.pending_eq]
    exact nodup_update h.nodup ((h.nodup slot).erase t)
  case ne_null =>
    exact fun slot' t' ht' => h.ne_null slot' t' (hsub slot' t' ht')
  case slot_eq =>
    rw [hr.mem_eq]
    exact fun slot' t' ht' => h.slot_eq slot' t' (hsub slot' t' ht')
  case rid_lt =>
    rw [hr.mem_eq, hr.nextRid_eq]
    exact fun slot' t' ht' => h.rid_lt slot' t' (hsub slot' t' ht')
  case rid_inj =>
    rw [hr.mem_eq]
    exact fun t₁ t₂ h₁ h₂ => h.rid_inj t₁ t₂ (hpend t₁ h₁).1 (hpend t₂ h₂).1
  case handed_lt =>
    rw [hr.handed_eq, hr.nextRid_eq]
    exact h.handed_lt
  case completed_lt =>
    rw [hr.completed_eq, hr.nextRid_eq]
    intro rid hrid
    rcases mem_append.mp hrid with hrid | hrid
    · exact h.completed_lt rid hrid
    · rw [mem_singleton.mp hrid]
      exact h.rid_lt slot t hr.mem_pending
  case completed_not_pending =>
    intro t' ht' hcompleted
    rcases hpend t' ht' with ⟨hp, hne⟩
    rw [hr.completed_eq, hr.mem_eq, mem_append, mem_singleton] at hcompleted
    rcases hcompleted with hcompleted | heq
    · exact h.completed_not_pending t' hp hcompleted
    · exact hne (h.rid_inj t' t hp ⟨slot, hr.mem_pending⟩ heq)

lemma step_inv (h : s.Inv) {act : RilAct} (hs' : s.step cfg act = some s') : s'.Inv := by
  rcases step_cases h hs' with hk | ⟨_, _, _, _, _, _, ha⟩ | ⟨_, _, hr⟩
  exacts [hk.inv h, ha.inv h, hr.inv h]

/-! ## What the lists are for -/

/-- The request with the ghost number `rid` is on the list of `slot`. -/
def PendingRid (s : RilState) (slot : Slot) (rid : ℕ) : Prop :=
  ∃ t ∈ s.sPendingRequests slot, (s.mem t).rid = rid

/-- What the client and the vendor rely on. -/
structure Tracked (cfg : RilConfig) (s : RilState) : Prop where
  /-- a slot's list is the requests handed to the vendor and not completed -/
  pending_iff : ∀ slot rid, s.PendingRid slot rid ↔ (slot, rid) ∈ s.handed ∧ rid ∉ s.completed
  /-- no request is answered twice -/
  answered_once : (s.answered.map Answer.rid).Nodup
  /-- a request answered with an error before it was handed over is on no list -/
  rejected_not_pending : ∀ rid ∈ s.rejected, ∀ slot, ¬ s.PendingRid slot rid
  /-- a completion takes exactly the request of its token off the lists -/
  complete_pending : ∀ slot t e response, t ∈ s.sPendingRequests slot →
    (s.onRequestComplete cfg t e response).sPendingRequests
        = update s.sPendingRequests slot ((s.sPendingRequests slot).erase t)
      ∧ (s.onRequestComplete cfg t e response).mem = s.mem
  /-- any other token changes nothing -/
  complete_not_pending : ∀ t e response, ¬ s.IsPending t →
    s.onRequestComplete cfg t e response = s ∧ s.onRequestAck t = s

/-- The action does not put a request on a list whose arguments cannot be passed on. -/
def PassesArguments : RilAct → Prop
  | .request _ _ _ (some _) steps => ∀ m ∈ steps, m.Passes
  | _ => True

/-- The invariant behind `Tracked`, for runs that always pass the arguments on. -/
structure TrackedInv (s : RilState) : Prop where
  inv : s.Inv
  pending_iff : ∀ slot rid, s.PendingRid slot rid ↔ (slot, rid) ∈ s.handed ∧ rid ∉ s.completed
  rejected_nil : s.rejected = []
  answered_completed : ∀ a ∈ s.answered, a.rid ∈ s.completed
  answered_once : (s.answered.map Answer.rid).Nodup

lemma TrackedInv.tracked (cfg : RilConfig) (h : s.TrackedInv) : s.Tracked cfg where
  pending_iff := h.pending_iff
  answered_once := h.answered_once
  rejected_not_pending := by simp [h.rejected_nil]
  complete_pending slot t e response ht :=
    have hr := onRequestComplete_pending cfg h.inv ht e response
    ⟨hr.pending_eq, hr.mem_eq⟩
  complete_not_pending t e response ht :=
    ⟨onRequestComplete_not_pending cfg ht e response, onRequestAck_not_pending ht⟩

lemma init_trackedInv (mem : ℕ → RequestInfo) : (init mem).TrackedInv where
  inv := init_inv mem
  pending_iff := by simp [PendingRid, init]
  rejected_nil := rfl
  answered_completed := by simp [init]
  answered_once := by simp [init]

lemma Kept.trackedInv (h : s.TrackedInv) (hk : Kept s s') : s'.TrackedInv := by
  refine ⟨hk.inv h.inv, fun slot rid => ?_, hk.rejected_eq.trans h.rejected_nil, ?_, ?_⟩
  · rw [hk.handed_eq, hk.completed_eq, ← h.pending_iff]
    simp only [PendingRid, hk.pending_eq]
    constructor
    · rintro ⟨t, ht, hrid⟩
      exact ⟨t, ht, (hk.info_eq t ⟨slot, ht⟩).1.symm.trans hrid⟩
    · rintro ⟨t, ht, hrid⟩
      exact ⟨t, ht, (hk.info_eq t ⟨slot, ht⟩).1.trans hrid⟩
  · rw [hk.answered_eq, hk.completed_eq]
    exact h.answered_completed
  · rw [hk.answered_eq]
    exact h.answered_once

lemma Added.trackedInv (h : s.TrackedInv) (ha : Added s s' slot pRI steps) (hready : marshal steps = .ready) :
    s'.TrackedInv := by
  rcases ha.quiet hready with ⟨hrejected, hanswered⟩
  refine ⟨ha.inv h.inv, fun slot' rid => ?_, hrejected.trans h.rejected_nil, ?_, ?_⟩
  · rw [ha.handed_eq, if_pos hready, ha.completed_eq, mem_append, mem_singleton]
    constructor
    · rintro ⟨t, ht, rfl⟩
      rcases ha.isPending_iff.mp ht with ⟨rfl, rfl⟩ | hold
      · rw [ha.rid_eq]
        refine ⟨.inr rfl, fun hcompleted => ?_⟩
        exact absurd (h.inv.completed_lt _ hcompleted) (lt_irrefl _)
      · rw [ha.mem_eq ⟨slot', hold⟩]
        exact ((h.pending_iff slot' _).mp ⟨t, hold, rfl⟩).imp_left .inl
    · rintro ⟨hhanded | hnew, hcompleted⟩
      · rcases (h.pending_iff slot' rid).mpr ⟨hhanded, hcompleted⟩ with ⟨t, ht, rfl⟩
        exact ⟨t, ha.isPending_iff.mpr (.inr ht), by rw [ha.mem_eq ⟨slot', ht⟩]⟩
      · rcases Prod.mk.inj hnew with ⟨rfl, rfl⟩
        exact ⟨pRI, ha.isPending_iff.mpr (.inl ⟨rfl, rfl⟩), ha.rid_eq⟩
  · rw [hanswered, ha.completed_eq]
    exact h.answered_completed
  · rw [hanswered]
    exact h.answered_once

lemma Removed.trackedInv (h : s.TrackedInv) (hr : Removed s s' slot t) : s'.TrackedInv := by
  rcases hr.answers with ⟨as, has, hlen, hrid⟩
  refine ⟨hr.inv h.inv, fun slot' rid => ?_, hr.rejected_eq.trans h.rejected_nil, ?_, ?_⟩
  · rw [hr.handed_eq, hr.completed_eq, mem_append, mem_singleton, not_or, ← and_assoc, ← h.pending_iff]
    constructor
    · rintro ⟨t', ht', rfl⟩
      rcases (hr.isPending_iff h.inv).mp ht' with ⟨hne, hold⟩
      rw [hr.mem_eq]
      refine ⟨⟨t', hold, rfl⟩, fun heq => hne ?_⟩
      exact h.inv.rid_inj t' t ⟨slot', hold⟩ ⟨slot, hr.mem_pending⟩ heq
    · rintro ⟨⟨t', ht', rfl⟩, hne⟩
      refine ⟨t', (hr.isPending_iff h.inv).mpr ⟨?_, ht'⟩, by rw [hr.mem_eq]⟩
      rintro rfl
      exact hne rfl
  · rw [has, hr.completed_eq]
    intro a ha
    rcases mem_append.mp ha with ha | ha
    · exact mem_append_left _ (h.answered_completed a ha)
    · exact mem_append_right _ (by rw [hrid a ha]; exact mem_singleton_self _)
  · -- the answer is for the request just completed, the earlier ones for earlier ones
    rw [has, map_append, nodup_append]
    refine ⟨h.answered_once, ?_, ?_⟩
    · cases as with
      | nil => simp
      | cons a as =>
        have hnil : as = [] := by simpa using hlen
        simp [hnil]
    · rintro rid hold rid' hnew rfl
      rcases mem_map.mp hold with ⟨a, ha, rfl⟩
      rcases mem_map.mp hnew with ⟨a', ha', heq⟩
      rw [hrid a' ha'] at heq
      exact h.inv.completed_not_pending t ⟨slot, hr.mem_pending⟩ (heq ▸ h.answered_completed a ha)

lemma step_trackedInv (cfg : RilConfig) (s : RilState) (act : RilAct) (s' : RilState)
    (h : s.TrackedInv) (hpass : PassesArguments act) (hs' : s.step cfg act = some s') : s'.TrackedInv := by
  rcases step_cases h.inv hs' with hk | ⟨_, _, _, _, steps, rfl, ha⟩ | ⟨_, _, hr⟩
  · exact hk.trackedInv h
  · exact ha.trackedInv h ((marshal_eq_ready_iff steps).mpr hpass)
  · exact hr.trackedInv h

/-- A step that does not leaves a request on a list that the vendor does not have. -/
lemma not_tracked_of_not_passes (cfg : RilConfig) (s : RilState) (act : RilAct) (s' : RilState)
    (h : s.TrackedInv) (hpass : ¬ PassesArguments act) (hs' : s.step cfg act = some s') : ¬ s'.Tracked cfg := by
  intro htracked
  cases act with
  | request serial slot request pRI steps =>
    cases pRI with
    | none => exact hpass trivial
    | some pRI =>
      have ha := request_spec hs'
      have hready : marshal steps ≠ .ready := fun hm => hpass ((marshal_eq_ready_iff steps).mp hm)
      have hpending : s'.PendingRid slot s.nextRid :=
        ⟨pRI, ha.isPending_iff.mpr (.inl ⟨rfl, rfl⟩), ha.rid_eq⟩
      have hhanded := ((htracked.pending_iff slot s.nextRid).mp hpending).1
      rw [ha.handed_eq, if_neg hready] at hhanded
      exact absurd (h.inv.handed_lt _ hhanded) (lt_irrefl _)
  | complete | ack | connect | disconnect | scribble => exact hpass trivial

/-- **The pending lists are right iff every listed request's arguments are passed on.**  For every
run of submissions, completions and acknowledgements by any token, local requests, connects and
disconnects over both slots, `Tracked` holds in every state the run visits exactly when each
request the run puts on a list gets through the copying and checking of its arguments. -/
theorem requests_tracked_iff (cfg : RilConfig) (mem : ℕ → RequestInfo) (acts : List RilAct)
    (s : RilState) (hrun : run (step cfg) (init mem) acts = some s) :
    Along (step cfg) (Tracked cfg) (init mem) acts
      ↔ StepsMeet (step cfg) (fun _ act => PassesArguments act) (init mem) acts := by
  refine along_iff_stepsMeet (step_trackedInv cfg) (fun s h => ?_) (not_tracked_of_not_passes cfg)
    (init_trackedInv mem) hrun
  exact h.tracked cfg

/-- The configuration of the examples: every command has a response function, version 13. -/
def exampleConfig : RilConfig := ⟨fun _ => true, 13⟩

/-- A request with two strings, acknowledged and completed twice; then a local one on the other
slot at the same address. -/
def exampleRun : List RilAct :=
  [.connect .socket1,
    .request 7 .socket1 28 (some 1) (dispatchStrings true [(true, [65]), (false, [])]),
    .ack 1, .complete 1 .success none, .complete 1 .success none,
    .request (-1) .socket2 rilRequestGetImei (some 1) dispatchVoid,
    .complete 1 .success (some [49])]

theorem requests_tracked_exampleRun :
    ∃ s, run (step exampleConfig) (init fun _ => default) exampleRun = some s
      ∧ s.answered = [⟨0, .socket1, 7, .solicitedAckExp, .success, .data none⟩]
      ∧ Along (step exampleConfig) (Tracked exampleConfig) (init fun _ => default) exampleRun := by
  have hanswered : (run (step exampleConfig) (init fun _ => default) exampleRun).map RilState.answered
      = some [⟨0, .socket1, 7, .solicitedAckExp, .success, .data none⟩] := by decide +kernel
  rcases Option.map_eq_some_iff.mp hanswered with ⟨s, hrun, hs⟩
  refine ⟨s, hrun, hs, (requests_tracked_iff exampleConfig _ exampleRun s hrun).mpr ?_⟩
  refine stepsMeet_of_forall fun act hact => ?_
  simp only [exampleRun, mem_cons, not_mem_nil, or_false] at hact
  rcases hact with rfl | rfl | rfl | rfl | rfl | rfl | rfl <;>
    simp [PassesArguments, dispatchStrings, dispatchVoid, MarshalStep.Passes]

/-- `getCdmaSubscriptionSource` on slot 1: the client has its answer, the vendor was handed
nothing, and the request stays on the list; a completion by that token would answer it again. -/
theorem getCdmaSubscriptionSource_stays_pending :
    ∃ s, run (step exampleConfig) (init fun _ => default)
        [.connect .socket1, .request 7 .socket1 104 (some 1) notSupported] = some s
      ∧ s.answered = [⟨0, .socket1, 7, .solicited, .requestNotSupported, .data none⟩]
      ∧ s.handed = [] ∧ s.rejected = [0] ∧ s.PendingRid .socket1 0
      ∧ (s.onRequestComplete exampleConfig 1 .success none).answered.map Answer.rid = [0, 0] :=
  ⟨_, rfl, by decide, rfl, by decide, ⟨1, by decide, by decide⟩, by decide⟩

end RilState

end Hal
