import Mathlib.Data.List.Nodup
import DeviceHal.Core.Calls
import DeviceHal.Ril.Types
import DeviceHal.Ril.Commands

/-!
# The proxy queues of `my_enqueue`

With `RIL_CHANNEL_QUEUING` a request of the proxies 1 and 3 waits while another one of its proxy and
slot is at the vendor.  `my_enqueue` looks at a busy flag and hands the request on or appends it to
the queue; the end of `RIL_onRequestComplete` clears the flag and lets `my_dequeue` hand on the head.

Neither takes a lock, and submissions and completions come from different threads: a call is a sequence of accesses
to queue and flag (`Accesses`), and calls interleave.  A vendor that completes from within `onRequest` is
covered: `onRequest` is the last thing either function does to the queues.

**The defects.**  `RADIO_POWER` of slot 2 looks at the flag of slot 1 and sets it; a request that bypasses the queue
(`FMT_IGNORE`) is nevertheless treated as the channel's own when it completes; and a request that has found the channel
busy is appended even if the channel has become idle since.

* `ChannelState.Ok` — what the queues are for: the flag says whether a request of the channel is at the
  vendor, there is at most one, they go there in the order of submission, and a queue that is not
  empty has somebody to empty it.
* `ChannelState.step` — a submission and a completion as one step each; `whole_call` — what the calls come to if nobody
  is in between.
* **`channels_ok`** — the queues are right whenever no call is under way, in every run in which no call begins while
  another one is, and no submission meets one of the first two defects.
-/

namespace Hal

open List Option Function

/-- `BUF_FMTS`. -/
inductive BufFmt where
  | ignore
  | void
  | ints
  | str
  | strs
  | callFwst
  | iccApdu
  | simIo
  | wrSmsSim
  | raw
  | attchApn
  | imsSms
  | simAuth
  | dataProf
deriving DecidableEq

/-- `RIL_REQUEST_RADIO_POWER`. -/
def requestRadioPower : ℕ := 23

inductive CmdProxy where
  | cmd1
  | cmd3
deriving DecidableEq

/-- A queue: `proxyCmd1[slot]` or `proxyCmd3[slot]`, with its busy flag. -/
structure Channel where
  proxy : CmdProxy
  slot : Slot
deriving DecidableEq

/-- A request, by what the queues look at.  The `id` is a ghost: which submission it was. -/
structure ChannelReq where
  id : ℕ
  request : ℕ
  proxyId : Proxy
  slot : Slot
  bf : BufFmt
deriving DecidableEq

/-- The channel of a command, if it has one. -/
def Proxy.channel (slot : Slot) : Proxy → Option Channel
  | .proxy1 => some ⟨.cmd1, slot⟩
  | .proxy3 => some ⟨.cmd3, slot⟩
  | _ => none

namespace ChannelReq

/-- The channel whose requests this is one of. -/
def channel (r : ChannelReq) : Option Channel := r.proxyId.channel r.slot

def isOf (ch : Channel) (r : ChannelReq) : Bool := r.channel = some ch

@[simp] lemma isOf_iff {ch : Channel} {r : ChannelReq} : r.isOf ch = true ↔ r.channel = some ch := by
  simp [isOf]

end ChannelReq

/-- Submissions, of any request in any format, and completions. -/
inductive ChannelAct where
  | submit (request : ℕ) (slot : Slot) (bf : BufFmt)
  | complete (r : ChannelReq)

/-- The queues and the flags.  The lists are ghosts: which requests are at the vendor, which were
submitted, and which were handed to the vendor, each in order. -/
structure ChannelState where
  proxyCmd : Channel → List ChannelReq
  cmdProxyBusy : Channel → Bool
  inFlight : List ChannelReq
  submitted : List ChannelReq
  handed : List ChannelReq

namespace ChannelState

def init : ChannelState := ⟨fun _ => [], fun _ => false, [], [], []⟩

/-- `s_callbacksSocket.onRequest`. -/
def onRequest (s : ChannelState) (r : ChannelReq) : ChannelState :=
  { s with inFlight := s.inFlight ++ [r], handed := s.handed ++ [r] }

/-- The flag that `my_enqueue` looks at and sets: for `RADIO_POWER` on proxy 1 always that of the
first slot. -/
def busyIndex (request : ℕ) (ch : Channel) : Channel :=
  if ch.proxy = .cmd1 ∧ request = requestRadioPower then ⟨.cmd1, .socket1⟩ else ch

def myEnqueue (s : ChannelState) (r : ChannelReq) : ChannelState :=
  match if r.bf = .ignore then none else r.channel with
  | none => s.onRequest r
  | some ch =>
    let pending := s.cmdProxyBusy (busyIndex r.request ch)
    let s := { s with cmdProxyBusy := update s.cmdProxyBusy (busyIndex r.request ch) true }
    if pending then
      { s with proxyCmd := update s.proxyCmd ch (s.proxyCmd ch ++ [r]) }
    else s.onRequest r

def myDequeue (s : ChannelState) (ch : Channel) : ChannelState :=
  match s.proxyCmd ch with
  | [] => { s with cmdProxyBusy := update s.cmdProxyBusy ch false }
  | r :: rest =>
    onRequest
      { s with
        proxyCmd := update s.proxyCmd ch rest
        cmdProxyBusy := update s.cmdProxyBusy ch true } r

/-- The end of `RIL_onRequestComplete`.  The format of the request is not looked at. -/
def onRequestComplete (s : ChannelState) (r : ChannelReq) : ChannelState :=
  let s := { s with inFlight := s.inFlight.erase r }
  match r.channel with
  | none => s
  | some ch => myDequeue { s with cmdProxyBusy := update s.cmdProxyBusy ch false } ch

/-- One action.  The vendor knows a request only once it has been handed on; a completion of one that
is not pending is refused by `checkAndDequeueRequestInfoIfAck`. -/
def step (s : ChannelState) : ChannelAct → Option ChannelState
  | .submit request slot bf =>
    match proxyOf request with
    | none => none
    | some proxyId =>
      let r : ChannelReq := ⟨s.submitted.length, request, proxyId, slot, bf⟩
      some (myEnqueue { s with submitted := s.submitted ++ [r] } r)
  | .complete r =>
    if r ∈ s.inFlight then some (s.onRequestComplete r)
    else if r ∈ s.submitted ∧ r ∉ s.handed then none
    else some s

/-- `my_enqueue`, access by access.  Walking to the end of the queue and linking the request there is one. -/
def enqueueCall (r : ChannelReq) : Accesses ChannelState Unit := do
  match if r.bf = .ignore then none else r.channel with
  | none => .write (onRequest · r)
  | some ch =>
    let p ← .read fun s => s.proxyCmd ch
    let pending ← .read fun s => s.cmdProxyBusy (busyIndex r.request ch)
    .write fun s => { s with cmdProxyBusy := update s.cmdProxyBusy (busyIndex r.request ch) true }
    if pending then
      -- the first of a queue is not linked to the one before it, but made the head
      if p = [] then .write fun s => { s with proxyCmd := update s.proxyCmd ch [r] }
      else .write fun s => { s with proxyCmd := update s.proxyCmd ch (s.proxyCmd ch ++ [r]) }
    else .write (onRequest · r)

/-- `my_dequeue`, access by access. -/
def dequeueCall (ch : Channel) : Accesses ChannelState Unit := do
  match ← .read fun s => s.proxyCmd ch with
  | [] => .write fun s => { s with cmdProxyBusy := update s.cmdProxyBusy ch false }
  | r :: _ =>
    .write fun s => { s with proxyCmd := update s.proxyCmd ch (s.proxyCmd ch).tail }
    .write fun s => { s with cmdProxyBusy := update s.cmdProxyBusy ch true }
    .write (onRequest · r)

def completeCall (r : ChannelReq) : Accesses ChannelState Unit := do
  match r.channel with
  | none => return
  | some ch =>
    .write fun s => { s with cmdProxyBusy := update s.cmdProxyBusy ch false }
    dequeueCall ch

/-- What a submission or a completion does, and is going to do. -/
def call (s : ChannelState) : ChannelAct → Option (ChannelState × Accesses ChannelState Unit)
  | .submit request slot bf =>
    match proxyOf request with
    | none => none
    | some proxyId =>
      let r : ChannelReq := ⟨s.submitted.length, request, proxyId, slot, bf⟩
      some ({ s with submitted := s.submitted ++ [r] }, enqueueCall r)
  | .complete r =>
    if r ∈ s.inFlight then some ({ s with inFlight := s.inFlight.erase r }, completeCall r)
    else if r ∈ s.submitted ∧ r ∉ s.handed then none
    else some (s, pure ())

structure Ok (s : ChannelState) : Prop where
  /-- The flag is set exactly when a request of the channel is at the vendor. -/
  busy_iff : ∀ ch, s.cmdProxyBusy ch = true ↔ ∃ r ∈ s.inFlight, r.isOf ch = true
  /-- There is at most one. -/
  one : ∀ ch, (s.inFlight.filter (ChannelReq.isOf ch)).length ≤ 1
  /-- In the order of submission, none lost and none twice. -/
  order : ∀ ch, s.submitted.filter (ChannelReq.isOf ch)
    = s.handed.filter (ChannelReq.isOf ch) ++ s.proxyCmd ch
  distinct : (s.submitted.map ChannelReq.id).Nodup
  /-- Some completion hands on the head of a queue. -/
  dequeues : ∀ ch r rest, s.proxyCmd ch = r :: rest → ∃ q ∈ s.inFlight, ∃ s',
    s.step (.complete q) = some s' ∧ s'.proxyCmd ch = rest ∧ s'.handed = s.handed ++ [r]

/-- The step meets neither defect: a request of a channel does not bypass the queue, and `RADIO_POWER`
of slot 2 is submitted only while the channel is busy on both slots. -/
def Regular (s : ChannelState) : ChannelAct → Prop
  | .submit request slot bf =>
    ∀ ch ∈ (proxyOf request).bind (Proxy.channel slot),
      bf ≠ .ignore ∧ (request = requestRadioPower → ch = ⟨.cmd1, .socket2⟩ →
        s.cmdProxyBusy ⟨.cmd1, .socket1⟩ = true ∧ s.cmdProxyBusy ⟨.cmd1, .socket2⟩ = true)
  | .complete _ => True

instance (s : ChannelState) : DecidablePred s.Regular
  | .submit request slot _ =>
    inferInstanceAs (Decidable (∀ ch ∈ (proxyOf request).bind (Proxy.channel slot), _ ∧ _))
  | .complete _ => isTrue trivial

/-! ## Calls with nobody in between -/

lemma exec_enqueueCall (s : ChannelState) (r : ChannelReq) : ((enqueueCall r).exec s).2 = s.myEnqueue r := by
  unfold enqueueCall myEnqueue
  split
  · rfl
  · next ch _ =>
    cases hbusy : s.cmdProxyBusy (busyIndex r.request ch) with
    | false => simp [hbusy]
    | true =>
      by_cases hempty : s.proxyCmd ch = []
      · simp [hbusy, hempty]
      · simp [hbusy, hempty]

lemma exec_completeCall (s : ChannelState) (r : ChannelReq) :
    ((completeCall r).exec { s with inFlight := s.inFlight.erase r }).2 = s.onRequestComplete r := by
  unfold completeCall onRequestComplete
  cases r.channel with
  | none => rfl
  | some ch =>
    cases hqueue : s.proxyCmd ch with
    | nil | cons => simp [dequeueCall, myDequeue, hqueue]

/-- **A call with nobody in between** is one step. -/
lemma whole_call (s : ChannelState) (act : ChannelAct) : Calls.whole call s act = s.step act := by
  cases act with
  | submit request slot bf =>
    simp only [Calls.whole, call, step]
    cases proxyOf request with
    | none => rfl
    | some proxyId => simp [exec_enqueueCall]
  | complete r =>
    simp only [Calls.whole, call, step]
    split_ifs
    · simp [exec_completeCall]
    · rfl
    · rfl

/-! ## What a regular step does -/

inductive Move (s : ChannelState) : ChannelState → Prop
  | refused : Move s s
  | direct {r : ChannelReq} (hid : r.id = s.submitted.length) (hr : r.channel = none) :
      Move s (onRequest { s with submitted := s.submitted ++ [r] } r)
  | start {r : ChannelReq} {ch : Channel} (hid : r.id = s.submitted.length) (hr : r.channel = some ch)
      (hidle : s.cmdProxyBusy ch = false) :
      Move s (onRequest
        { s with
          submitted := s.submitted ++ [r]
          cmdProxyBusy := update s.cmdProxyBusy ch true } r)
  | wait {r : ChannelReq} {ch : Channel} (hid : r.id = s.submitted.length) (hr : r.channel = some ch)
      (hbusy : s.cmdProxyBusy ch = true) :
      Move s { s with
        submitted := s.submitted ++ [r]
        proxyCmd := update s.proxyCmd ch (s.proxyCmd ch ++ [r]) }
  | finish {r : ChannelReq} (hmem : r ∈ s.inFlight) (hr : r.channel = none) :
      Move s { s with inFlight := s.inFlight.erase r }
  | idle {r : ChannelReq} {ch : Channel} (hmem : r ∈ s.inFlight) (hr : r.channel = some ch)
      (hempty : s.proxyCmd ch = []) :
      Move s { s with
        inFlight := s.inFlight.erase r
        cmdProxyBusy := update s.cmdProxyBusy ch false }
  | next {r head : ChannelReq} {rest : List ChannelReq} {ch : Channel} (hmem : r ∈ s.inFlight)
      (hr : r.channel = some ch) (hqueue : s.proxyCmd ch = head :: rest) :
      Move s (onRequest
        { s with
          inFlight := s.inFlight.erase r
          proxyCmd := update s.proxyCmd ch rest
          cmdProxyBusy := update s.cmdProxyBusy ch true } head)

variable {ch : Channel} {r : ChannelReq} {s : ChannelState}

lemma onRequestComplete_of_channel (hr : r.channel = some ch) :
    s.onRequestComplete r = match s.proxyCmd ch with
      | [] => { s with
          inFlight := s.inFlight.erase r
          cmdProxyBusy := update s.cmdProxyBusy ch false }
      | head :: rest => onRequest
          { s with
            inFlight := s.inFlight.erase r
            proxyCmd := update s.proxyCmd ch rest
            cmdProxyBusy := update s.cmdProxyBusy ch true } head := by
  simp only [onRequestComplete, hr, myDequeue]
  cases s.proxyCmd ch with
  | nil | cons => simp

lemma move_complete (hmem : r ∈ s.inFlight) : Move s (s.onRequestComplete r) := by
  cases hr : r.channel with
  | none =>
    have heq : s.onRequestComplete r = { s with inFlight := s.inFlight.erase r } := by
      simp only [onRequestComplete, hr]
    exact heq ▸ Move.finish hmem hr
  | some ch =>
    rw [onRequestComplete_of_channel hr]
    cases hqueue : s.proxyCmd ch with
    | nil => exact Move.idle hmem hr hqueue
    | cons head rest => exact Move.next hmem hr hqueue

lemma busyIndex_eq {request : ℕ}
    (h : request = requestRadioPower → ch ≠ ⟨.cmd1, .socket2⟩) : busyIndex request ch = ch := by
  rcases ch with ⟨proxy, slot⟩
  simp only [busyIndex]
  split_ifs with hc
  · cases slot with
    | socket1 => rw [hc.1]
    | socket2 => exact absurd (by rw [hc.1]) (h hc.2)
  · rfl

lemma move_enqueue (hid : r.id = s.submitted.length) (hreg : ∀ ch, r.channel = some ch → r.bf ≠ .ignore ∧
      (r.request = requestRadioPower → ch = ⟨.cmd1, .socket2⟩ →
        s.cmdProxyBusy ⟨.cmd1, .socket1⟩ = true ∧ s.cmdProxyBusy ⟨.cmd1, .socket2⟩ = true)) :
    Move s (myEnqueue { s with submitted := s.submitted ++ [r] } r) := by
  cases hr : r.channel with
  | none =>
    simp only [myEnqueue, hr, ite_self]
    exact Move.direct hid hr
  | some ch =>
    rcases hreg ch hr with ⟨hbf, hpower⟩
    simp only [myEnqueue, if_neg hbf, hr]
    by_cases hdefect : r.request = requestRadioPower ∧ ch = ⟨.cmd1, .socket2⟩
    · -- both flags are set, so the request waits and no flag changes
      rcases hpower hdefect.1 hdefect.2 with ⟨hbusy, hbusy'⟩
      have hindex : busyIndex r.request ch = ⟨.cmd1, .socket1⟩ := by
        rw [hdefect.1, hdefect.2]
        rfl
      have hsame : update s.cmdProxyBusy ⟨.cmd1, .socket1⟩ true = s.cmdProxyBusy := by
        rw [← hbusy, update_eq_self]
      rw [hindex, if_pos hbusy, hsame]
      exact Move.wait hid hr (hdefect.2 ▸ hbusy')
    · have hindex : busyIndex r.request ch = ch :=
        busyIndex_eq fun hreq hch => hdefect ⟨hreq, hch⟩
      rw [hindex]
      cases hbusy : s.cmdProxyBusy ch with
      | false =>
        exact Move.start hid hr hbusy
      | true =>
        have hsame : update s.cmdProxyBusy ch true = s.cmdProxyBusy := by
          rw [← hbusy, update_eq_self]
        rw [if_pos rfl, hsame]
        exact Move.wait hid hr hbusy

lemma move_of_regular {s' : ChannelState} {act : ChannelAct} (hreg : s.Regular act)
    (hs' : s.step act = some s') : Move s s' := by
  cases act with
  | submit request slot bf =>
    simp only [step] at hs'
    split at hs'
    · cases hs'
    · next proxyId hproxy =>
      cases hs'
      refine move_enqueue rfl fun ch hr => hreg ch ?_
      rw [hproxy]
      exact hr
  | complete r =>
    simp only [step] at hs'
    split_ifs at hs' with hmem
    · exact Option.some.inj hs' ▸ move_complete hmem
    · exact Option.some.inj hs' ▸ Move.refused

/-! ## The invariant -/

/-- The requests of the channel at the vendor are as many as the flag says. -/
def Flying (busy : Bool) (flying : List ChannelReq) : Prop :=
  flying.length = if busy then 1 else 0

structure Inv (s : ChannelState) : Prop where
  flying : ∀ ch, Flying (s.cmdProxyBusy ch) (s.inFlight.filter (ChannelReq.isOf ch))
  order : ∀ ch, s.submitted.filter (ChannelReq.isOf ch)
    = s.handed.filter (ChannelReq.isOf ch) ++ s.proxyCmd ch
  waiting : ∀ ch, s.proxyCmd ch ≠ [] → s.cmdProxyBusy ch = true
  ids : s.submitted.map ChannelReq.id = List.range s.submitted.length

lemma init_inv : init.Inv := by
  refine ⟨fun ch => ?_, fun ch => ?_, fun ch hne => ?_, rfl⟩
  · simp [init, Flying]
  · simp [init]
  · exact absurd rfl hne

lemma filter_singleton (ch : Channel) (r : ChannelReq) :
    [r].filter (ChannelReq.isOf ch) = if r.channel = some ch then [r] else [] := by
  split_ifs with hr
  · exact filter_cons_of_pos (ChannelReq.isOf_iff.mpr hr)
  · exact filter_cons_of_neg fun hc => hr (ChannelReq.isOf_iff.mp hc)

lemma filter_of_none (hr : r.channel = none) (l : List ChannelReq) (ch : Channel) :
    (l ++ [r]).filter (ChannelReq.isOf ch) = l.filter (ChannelReq.isOf ch) := by
  rw [filter_append, filter_singleton, hr, if_neg (by simp), append_nil]

lemma filter_append_of_channel {c : Channel} (hr : r.channel = some c) (l : List ChannelReq) (ch : Channel) :
    (l ++ [r]).filter (ChannelReq.isOf ch)
      = l.filter (ChannelReq.isOf ch) ++ if ch = c then [r] else [] := by
  rw [filter_append, filter_singleton, hr]
  simp [eq_comm]

lemma filter_erase_of_ne (hr : r.channel ≠ some ch) (l : List ChannelReq) :
    (l.erase r).filter (ChannelReq.isOf ch) = l.filter (ChannelReq.isOf ch) := by
  rw [← erase_filter]
  refine erase_of_not_mem fun hmem => hr ?_
  exact ChannelReq.isOf_iff.mp (mem_filter.mp hmem).2

lemma Inv.filter_erase (h : s.Inv) (hmem : r ∈ s.inFlight) (hr : r.channel = some ch) :
    (s.inFlight.erase r).filter (ChannelReq.isOf ch) = [] := by
  have hmem' : r ∈ s.inFlight.filter (ChannelReq.isOf ch) :=
    mem_filter.mpr ⟨hmem, ChannelReq.isOf_iff.mpr hr⟩
  have hlen := h.flying ch
  rw [← erase_filter, ← length_eq_zero_iff, length_erase_of_mem hmem']
  simp only [Flying] at hlen
  split_ifs at hlen <;> omega

lemma ids_append (h : s.Inv) (hid : r.id = s.submitted.length) :
    (s.submitted ++ [r]).map ChannelReq.id = List.range (s.submitted ++ [r]).length := by
  rw [map_append, h.ids, length_append, length_singleton, range_succ]
  simp [hid]

/-! ### One channel at a time -/

structure Row where
  busy : Bool
  flying : List ChannelReq
  submitted : List ChannelReq
  handed : List ChannelReq
  queue : List ChannelReq

def row (s : ChannelState) (ch : Channel) : Row where
  busy := s.cmdProxyBusy ch
  flying := s.inFlight.filter (ChannelReq.isOf ch)
  submitted := s.submitted.filter (ChannelReq.isOf ch)
  handed := s.handed.filter (ChannelReq.isOf ch)
  queue := s.proxyCmd ch

structure Row.Works (row : Row) : Prop where
  flying : Flying row.busy row.flying
  order : row.submitted = row.handed ++ row.queue
  waiting : row.queue ≠ [] → row.busy = true

lemma Inv.row (h : s.Inv) (ch : Channel) : (s.row ch).Works :=
  ⟨h.flying ch, h.order ch, h.waiting ch⟩

lemma inv_of_rows (hrows : ∀ ch, (s.row ch).Works)
    (hids : s.submitted.map ChannelReq.id = List.range s.submitted.length) : s.Inv :=
  ⟨fun ch => (hrows ch).flying, fun ch => (hrows ch).order, fun ch => (hrows ch).waiting, hids⟩

variable {row : Row}

lemma Row.Works.start (h : row.Works) (hidle : row.busy = false) (r : ChannelReq) :
    Row.Works ⟨true, row.flying ++ [r], row.submitted ++ [r], row.handed ++ [r], row.queue⟩ := by
  have hqueue : row.queue = [] := by
    by_contra hne
    exact absurd (h.waiting hne) (by simp [hidle])
  have hflying := h.flying
  rw [hidle, Flying, if_neg (by simp)] at hflying
  refine ⟨?_, ?_, fun _ => rfl⟩
  · simp [Flying, hflying]
  · rw [h.order, hqueue, append_nil, append_nil]

lemma Row.Works.wait (h : row.Works) (hbusy : row.busy = true) (r : ChannelReq) :
    Row.Works ⟨row.busy, row.flying, row.submitted ++ [r], row.handed, row.queue ++ [r]⟩ := by
  refine ⟨h.flying, ?_, fun _ => hbusy⟩
  rw [h.order, append_assoc]

lemma Row.Works.idle (h : row.Works) (hempty : row.queue = []) :
    Row.Works ⟨false, [], row.submitted, row.handed, row.queue⟩ :=
  ⟨rfl, h.order, fun hne => absurd hempty hne⟩

lemma Row.Works.next (h : row.Works) {head : ChannelReq} {rest : List ChannelReq}
    (hqueue : row.queue = head :: rest) : Row.Works ⟨true, [head], row.submitted, row.handed ++ [head], rest⟩ := by
  refine ⟨rfl, ?_, fun _ => rfl⟩
  rw [h.order, hqueue, append_assoc, singleton_append]

/-- **One move.** -/
lemma Move.inv {s' : ChannelState} (hm : Move s s') (h : s.Inv) : s'.Inv := by
  cases hm with
  | refused => exact h
  | direct hid hr =>
    refine inv_of_rows (fun ch => ?_) (ids_append h hid)
    simpa only [ChannelState.row, onRequest, filter_of_none hr] using h.row ch
  | @start r c hid hr hidle =>
    refine inv_of_rows (fun ch => ?_) (ids_append h hid)
    by_cases hch : ch = c
    · subst hch
      simpa [ChannelState.row, onRequest, filter_append_of_channel hr] using (h.row ch).start hidle r
    · simpa [ChannelState.row, onRequest, filter_append_of_channel hr, hch] using h.row ch
  | @wait r c hid hr hbusy =>
    refine inv_of_rows (fun ch => ?_) (ids_append h hid)
    by_cases hch : ch = c
    · subst hch
      simpa [ChannelState.row, filter_append_of_channel hr] using (h.row ch).wait hbusy r
    · simpa [ChannelState.row, filter_append_of_channel hr, hch] using h.row ch
  | finish hmem hr =>
    refine inv_of_rows (fun ch => ?_) h.ids
    simpa only [ChannelState.row, filter_erase_of_ne (hr ▸ some_ne_none ch).symm] using h.row ch
  | @idle r c hmem hr hempty =>
    refine inv_of_rows (fun ch => ?_) h.ids
    by_cases hch : ch = c
    · subst hch
      simpa [ChannelState.row, h.filter_erase hmem hr] using (h.row ch).idle hempty
    · have hne : r.channel ≠ some ch := fun hc => hch (Option.some.inj (hc.symm.trans hr))
      simpa [ChannelState.row, filter_erase_of_ne hne, hch] using h.row ch
  | @next r head rest c hmem hr hqueue =>
    -- the head is of the channel, since it was submitted and waits there
    have hhead : head.channel = some c := by
      have hin : head ∈ s.submitted.filter (ChannelReq.isOf c) := by
        rw [h.order c, hqueue]
        simp
      exact ChannelReq.isOf_iff.mp (mem_filter.mp hin).2
    refine inv_of_rows (fun ch => ?_) h.ids
    by_cases hch : ch = c
    · subst hch
      simpa [ChannelState.row, onRequest, filter_append_of_channel hhead, h.filter_erase hmem hr]
        using (h.row ch).next hqueue
    · have hne : r.channel ≠ some ch := fun hc => hch (Option.some.inj (hc.symm.trans hr))
      simpa [ChannelState.row, onRequest, filter_append_of_channel hhead, filter_erase_of_ne hne, hch]
        using h.row ch

lemma Inv.busy_iff (h : s.Inv) (ch : Channel) : s.cmdProxyBusy ch = true ↔ ∃ r ∈ s.inFlight, r.isOf ch = true := by
  have hlen := h.flying ch
  have hpos : (∃ r ∈ s.inFlight, r.isOf ch = true)
      ↔ 0 < (s.inFlight.filter (ChannelReq.isOf ch)).length := by
    rw [length_filter_pos_iff]
  rw [hpos, hlen]
  cases s.cmdProxyBusy ch <;> simp

lemma Inv.ok (h : s.Inv) : s.Ok := by
  refine ⟨h.busy_iff, fun ch => ?_, h.order, h.ids ▸ nodup_range, fun ch r rest hqueue => ?_⟩
  · have hlen := h.flying ch
    simp only [Flying] at hlen
    split_ifs at hlen <;> omega
  · rcases (h.busy_iff ch).mp (h.waiting ch (by simp [hqueue])) with ⟨q, hq, hqch⟩
    refine ⟨q, hq, s.onRequestComplete q, by simp [step, hq], ?_⟩
    rw [onRequestComplete_of_channel (ChannelReq.isOf_iff.mp hqch), hqueue]
    simp [onRequest]

/-! ## Queues that are stuck -/

lemma proxyCmd_onRequestComplete
    (hr : r.channel ≠ some ch) : (s.onRequestComplete r).proxyCmd ch = s.proxyCmd ch := by
  cases hc : r.channel with
  | none => simp only [onRequestComplete, hc]
  | some c =>
    have hne : ch ≠ c := fun heq => hr (heq ▸ hc)
    rw [onRequestComplete_of_channel hc]
    cases s.proxyCmd c with
    | nil => rfl
    | cons head rest => simp [onRequest, update_of_ne hne]

lemma not_ok_of_stuck (ch : Channel) (hqueue : s.proxyCmd ch ≠ [])
    (hnone : ∀ r ∈ s.inFlight, r.channel ≠ some ch) : ¬ s.Ok := by
  intro hok
  rcases exists_cons_of_ne_nil hqueue with ⟨r, rest, heq⟩
  rcases hok.dequeues ch r rest heq with ⟨q, hq, s', hs', hrest, _⟩
  simp only [step, if_pos hq] at hs'
  cases hs'
  rw [proxyCmd_onRequestComplete (hnone q hq), heq] at hrest
  exact cons_ne_self r rest hrest

/-- **The queues work whenever no call is under way**, in every run in which no call begins inside another one and
every submission is regular. -/
theorem channels_ok (acts : List (CallAct ChannelAct))
    (hacts : StepsMeet (Calls.step call) (Calls.Alone Regular) (Calls.start init) acts) :
    Along (Calls.step call) (fun s => s.Quiet → s.shared.Ok) (Calls.start init) acts := by
  refine Calls.along_quiet (I := Inv) (fun s act s' h hreg hs' => ?_) (fun s h => h.ok) init_inv hacts
  rw [whole_call] at hs'
  exact (move_of_regular hreg hs').inv h

/-- On proxy 1 of the first slot a second request waits for the first; `DIAL` goes past the queues. -/
def channelRun : List (CallAct ChannelAct) :=
  callAlone 0 4 (.submit 1 .socket1 .void)
    ++ callAlone 1 4 (.submit 28 .socket1 .simIo)
    ++ callAlone 2 1 (.submit 10 .socket1 .ignore)
    ++ callAlone 3 5 (.complete ⟨0, 1, .proxy1, .socket1, .void⟩)

theorem channels_ok_channelRun :
    (run (Calls.step call) (Calls.start init) channelRun).map (fun s => (s.shared.handed.map ChannelReq.id))
        = some [0, 2, 1]
      ∧ StepsMeet (Calls.step call) (Calls.Alone Regular) (Calls.start init) channelRun
      ∧ Along (Calls.step call) (fun s => s.Quiet → s.shared.Ok) (Calls.start init) channelRun := by
  have hacts : StepsMeet (Calls.step call) (Calls.Alone Regular) (Calls.start init) channelRun := by decide +kernel
  exact ⟨by decide +kernel, hacts, channels_ok channelRun hacts⟩

/-- `RADIO_POWER` of slot 2, submitted and completed, and then a request of slot 1. -/
def radioPowerRun : List (CallAct ChannelAct) :=
  callAlone 0 4 (.submit requestRadioPower .socket2 .ints)
    ++ callAlone 1 3 (.complete ⟨0, requestRadioPower, .proxy1, .socket2, .ints⟩)
    ++ callAlone 2 4 (.submit 1 .socket1 .void)

/-- Two requests of one channel; the first is completed between the second's look at the flag and its link. -/
def overtakenRun : List (CallAct ChannelAct) :=
  callAlone 0 4 (.submit 1 .socket1 .void)
    ++ callAlone 1 3 (.submit 28 .socket1 .simIo)
    ++ callAlone 2 3 (.complete ⟨0, 1, .proxy1, .socket1, .void⟩) ++ [.access 1]

/-- **The defects**: `RADIO_POWER` of slot 2 leaves the flag of slot 1 set, so that the next request of slot 1 waits with
nothing at the vendor; and so does a request that is overtaken by the completion it wants to wait for. -/
theorem radioPower_blocks_other_slot :
    (∃ s, run (Calls.step call) (Calls.start init) radioPowerRun = some s ∧ s.Quiet ∧ s.shared.inFlight = []
      ∧ s.shared.proxyCmd ⟨.cmd1, .socket1⟩ = [⟨1, 1, .proxy1, .socket1, .void⟩] ∧ ¬ s.shared.Ok)
    ∧ ∃ s, run (Calls.step call) (Calls.start init) overtakenRun = some s ∧ s.Quiet ∧ s.shared.inFlight = []
      ∧ s.shared.proxyCmd ⟨.cmd1, .socket1⟩ = [⟨1, 28, .proxy1, .socket1, .simIo⟩] ∧ ¬ s.shared.Ok := by
  refine ⟨⟨_, rfl, by decide, rfl, rfl, ?_⟩, _, rfl, by decide, rfl, rfl, ?_⟩
  · exact not_ok_of_stuck ⟨.cmd1, .socket1⟩ (cons_ne_nil _ _) fun r hr => absurd hr not_mem_nil
  · exact not_ok_of_stuck ⟨.cmd1, .socket1⟩ (cons_ne_nil _ _) fun r hr => absurd hr not_mem_nil

end ChannelState

end Hal
