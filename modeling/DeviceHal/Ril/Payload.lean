import Mathlib.Data.List.TakeWhile
import DeviceHal.Core.Region
import DeviceHal.Core.Queues
import DeviceHal.Ril.Channels
import DeviceHal.Ril.Marshal

/-!
# Payloads of queued requests

A dispatch helper builds the payload of a request out of blocks on the heap and in its own stack frame, and
`my_enqueue` either hands it to the vendor at once or, while the channel is busy, keeps a flat copy of
its first block in the queue.  `my_dequeue` hands over the copy, lets `clearPendingBuffer` free what the
format says, and frees the copy.

The memory of a request is a `Region` of its own, held by the entry of the queue.  The queues
themselves are those of `Ril.Channels`.

**The defects.**  The length passed with a string is that of a pointer, so four bytes of it are copied, and
the copy is freed twice; the array of a string list or of integers is copied, and the original is not freed;
the array of a broadcast configuration points into the stack frame of a function that has returned.  And a
request may wait for nobody, by the busy flag of `RADIO_POWER`.

* `queuedLife` — what becomes of a payload that waits, from the helper to the last `free`.
* **`payloads_ok_iff`** — all is well along a run **iff** every request that is taken off a queue has a payload
  that survives, and none waits while no request of its channel is at the vendor.
-/

namespace Hal

open List Option Function

/-! ## Payloads -/

structure GsmBroadcastSmsConfigInfo where
  fromServiceId : ℤ
  toServiceId : ℤ
  fromCodeScheme : ℤ
  toCodeScheme : ℤ
  selected : Bool

structure CdmaBroadcastSmsConfigInfo where
  serviceCategory : ℤ
  language : ℤ
  selected : Bool

/-- What the dispatch helpers are given.  The numbers of a call forward or APDU, and those of each
broadcast configuration, are the fields of the vendor's struct. -/
inductive Payload where
  | void
  | string (str : HidlString)
  | strings (strs : List HidlString)
  | ints (xs : List ℤ)
  | callForward (fields : List ℤ) (number : HidlString)
  | iccApdu (fields : List ℤ) (data : HidlString)
  | broadcastConfig (configs : List (List ℤ))

/-- The argument of `dispatchCallForwardStatus`. -/
def callForwardInfo (status reason serviceClass toa timeSeconds : ℤ) (number : HidlString) : Payload :=
  .callForward [status, reason, serviceClass, toa, timeSeconds] number

def simApdu (sessionId cla instruction p1 p2 p3 : ℤ) (data : HidlString) : Payload :=
  .iccApdu [sessionId, cla, instruction, p1, p2, p3] data

def setGsmBroadcastConfig (configInfo : List GsmBroadcastSmsConfigInfo) : Payload :=
  .broadcastConfig (configInfo.map fun c =>
    [c.fromServiceId, c.toServiceId, c.fromCodeScheme, c.toCodeScheme, c.selected.toInt])

def setCdmaBroadcastConfig (configInfo : List CdmaBroadcastSmsConfigInfo) : Payload :=
  .broadcastConfig (configInfo.map fun c => [c.serviceCategory, c.language, c.selected.toInt])

/-! ## Memory -/

/-- What a block holds.  `garbage` is a copy that ran out of its source. -/
inductive Cell where
  | bytes (bs : List UInt8)
  | ints (xs : List ℤ)
  | pointers (ps : List (Option ℕ))
  | record (xs : List ℤ) (ps : List (Option ℕ))
  | garbage
deriving DecidableEq

namespace Cell

/-- Numbers and pointers have four bytes. -/
def size : Cell → ℕ
  | bytes bs => bs.length
  | ints xs => 4 * xs.length
  | pointers ps => 4 * ps.length
  | record xs ps => 4 * (xs.length + ps.length)
  | garbage => 0

def copy (n : ℕ) (c : Cell) : Cell :=
  if n ≤ c.size then
    match c with
    | bytes bs => bytes (bs.take n)
    | ints xs => ints (xs.take (n / 4))
    | pointers ps => pointers (ps.take (n / 4))
    | record xs ps => if n = c.size then record xs ps else garbage
    | garbage => garbage
  else garbage

def pointersIn : Cell → List (Option ℕ)
  | pointers ps => ps
  | record _ ps => ps
  | _ => []

end Cell

/-- The block of `copyHidlStringToRil`: `calloc` of one byte more than the size, then `strlcpy`. -/
def stringCell (s : HidlString) : Cell :=
  .bytes (s.takeWhile (· ≠ 0) ++ List.replicate (s.length + 1 - strlen s) 0)

/-- `copyHidlStringToRil`; an empty string is a null pointer. -/
def allocString (m : Region Cell) (s : HidlString) : Region Cell × Option ℕ :=
  if s = [] then (m, none) else (m.alloc false (stringCell s), some m.length)

def allocStrings (m : Region Cell) : List HidlString → Region Cell × List (Option ℕ)
  | [] => (m, [])
  | s :: ss =>
    let (m, p) := allocString m s
    let (m, ps) := allocStrings m ss
    (m, p :: ps)

/-- The arguments of `my_enqueue`, and the memory they lead to. -/
structure Args where
  region : Region Cell
  buf : Option ℕ
  buflen : ℕ

/-- A struct in the stack frame, with one string on the heap. -/
def buildRecord (fields : List ℤ) (s : HidlString) : Args :=
  let (m, p) := allocString [] s
  ⟨m.alloc true (.record fields [p]), some m.length, 4 * (fields.length + 1)⟩

/-- What the dispatch helper of the kind builds; the structs and the array of the two broadcast requests are
in the stack frame. -/
def Payload.build : Payload → Args
  | void => ⟨[], none, 0⟩
  | string s =>
    let (m, p) := allocString [] s
    ⟨m, p, 4⟩
  | strings ss =>
    let (m, ps) := allocStrings [] ss
    ⟨m.alloc false (.pointers ps), some m.length, 4 * ss.length⟩
  | ints xs => ⟨Region.alloc [] false (.ints xs), some 0, 4 * xs.length⟩
  | callForward fields number => buildRecord fields number
  | iccApdu fields data => buildRecord fields data
  | broadcastConfig configs =>
    let m : Region Cell := configs.map fun c => ⟨.record c [], true, true, 0⟩
    ⟨m.alloc true (.pointers ((List.range configs.length).map some)), some m.length,
      4 * configs.length⟩

/-- `ignoreBF`: four of the helpers pass `FMT_IGNORE` for a proxy without a queue. -/
def Payload.format (proxyId : Proxy) (p : Payload) : BufFmt :=
  let queued := decide (proxyId = .proxy1 ∨ proxyId = .proxy3)
  match p with
  | void => .void
  | string _ => if queued then .str else .ignore
  | strings _ => if queued then .strs else .ignore
  | ints _ => if queued then .ints else .ignore
  | callForward _ _ => if queued then .callFwst else .ignore
  | iccApdu _ _ => .iccApdu
  | broadcastConfig _ => .raw

def Payload.queuedFormat (p : Payload) : BufFmt := p.format .proxy1

/-! ## What the vendor reads -/

inductive View where
  | void
  | string (s : Option (List UInt8))
  | strings (ss : List (Option (List UInt8)))
  | ints (xs : List ℤ)
  | record (xs : List ℤ) (s : Option (List UInt8))
  | configs (cs : List (List ℤ))
deriving DecidableEq

/-- A string behind a pointer, if it is live and terminated. -/
def readString (m : Region Cell) : Option ℕ → Option (Option (List UInt8))
  | none => some none
  | some a =>
    match m.read a with
    | some (.bytes bs) => if 0 ∈ bs then some (some (bs.takeWhile (· ≠ 0))) else none
    | _ => none

def readConfig (m : Region Cell) : Option ℕ → Option (List ℤ)
  | none => none
  | some a =>
    match m.read a with
    | some (.record xs []) => some xs
    | _ => none

/-- What the vendor finds behind `data` and `datalen`, by the kind of request; `none` if something it has to
read is not there. -/
def readPayload (kind : Payload) (m : Region Cell) (data : Option ℕ) (datalen : ℕ) : Option View :=
  match kind, data.bind m.read with
  | .void, _ => some .void
  | .string _, _ => (readString m data).map .string
  | .strings _, some (.pointers ps) =>
    if 4 * ps.length = datalen then (ps.mapM (readString m)).map .strings else none
  | .strings _, _ => if datalen = 0 then some (.strings []) else none
  | .ints _, some (.ints xs) => if 4 * xs.length = datalen then some (.ints xs) else none
  | .ints _, _ => if datalen = 0 then some (.ints []) else none
  | .callForward _ _, some (.record xs [p]) => (readString m p).map (.record xs)
  | .iccApdu _ _, some (.record xs [p]) => (readString m p).map (.record xs)
  | .broadcastConfig _, some (.pointers ps) =>
    if 4 * ps.length = datalen then (ps.mapM (readConfig m)).map .configs else none
  | .broadcastConfig _, _ => if datalen = 0 then some (.configs []) else none
  | _, _ => none

/-- What the vendor reads of a request that is dispatched immediately. -/
def Payload.content (p : Payload) : Option View :=
  readPayload p p.build.region p.build.buf p.build.buflen

/-! ## The queue's copy -/

def clearPendingBuffer (bf : BufFmt) (buf : Option ℕ) (buflen : ℕ) (m : Region Cell) : Region Cell :=
  let pointersAt (p : Option ℕ) : List (Option ℕ) := ((p.bind m.read).map Cell.pointersIn).getD []
  match bf with
  | .str => m.free buf
  | .strs => m.freeAll ((pointersAt buf).take (buflen / 4))
  | .callFwst | .iccApdu | .simIo | .wrSmsSim | .attchApn | .simAuth => m.freeAll (pointersAt buf)
  | .imsSms => m.freeAll ((pointersAt buf).flatMap fun p => (pointersAt p).take 2 ++ [p])
  | .dataProf =>
    m.freeAll (((pointersAt buf).take (buflen / 4)).flatMap fun p => pointersAt p ++ [p])
  | .ints | .raw | .void | .ignore => m

/-- A request in a queue, with its memory. -/
structure Waiting where
  req : ChannelReq
  payload : Payload
  region : Region Cell
  buf : Option ℕ
  buflen : ℕ

/-- The end of `my_enqueue` for a request that waits, and the return of the helper. -/
def enqueue (req : ChannelReq) (p : Payload) : Waiting :=
  let a := p.build
  if req.bf ≠ .void ∧ a.buflen ≠ 0 then
    let copied := ((a.buf.bind a.region.read).map (Cell.copy a.buflen)).getD .garbage
    ⟨req, p, (a.region.alloc false copied).popStack, some a.region.length, a.buflen⟩
  else ⟨req, p, a.region.popStack, none, a.buflen⟩

/-- A request that was handed on from a queue: what the vendor read, and its memory afterwards. -/
structure Handed where
  req : ChannelReq
  payload : Payload
  view : Option View
  region : Region Cell

/-- The end of `my_dequeue`: `onRequest`, then the memory is freed. -/
def dequeue (w : Waiting) : Handed :=
  { req := w.req
    payload := w.payload
    view := readPayload w.payload w.region w.buf w.buflen
    region := if w.req.bf ≠ .void ∧ w.buflen ≠ 0 then
        (clearPendingBuffer w.req.bf w.buf w.buflen w.region).free w.buf
      else w.region }

/-- What becomes of a payload that waits. -/
def queuedLife (req : ChannelReq) (p : Payload) : Handed := dequeue (enqueue req p)

/-- Handed on with the content of an immediate dispatch, all of it there, and then freed once. -/
structure Handed.Sound (h : Handed) : Prop where
  content : h.view = h.payload.content
  live : h.view ≠ none
  freedOnce : h.region.FreedOnce

/-! ## The machine -/

/-- The queues of `Ril.Channels`, and the memory of what waits in them.  `waited` and `handed` are ghosts:
the requests that had to wait, and those that were taken off a queue. -/
structure PayloadState where
  chan : ChannelState
  queue : Channel → List Waiting
  waited : List (ChannelReq × Payload)
  handed : List Handed

inductive PayloadAct where
  | submit (request : ℕ) (slot : Slot) (payload : Payload)
  | complete (r : ChannelReq)

namespace PayloadState

def init : PayloadState := ⟨.init, fun _ => [], [], []⟩

/-- `pending` of `my_enqueue`: the channel whose queue the request goes to, if it has to wait. -/
def pending (s : ChannelState) (r : ChannelReq) : Option Channel :=
  if r.bf = .ignore then none
  else r.channel.filter fun ch => s.cmdProxyBusy (ChannelState.busyIndex r.request ch)

/-- The request that a helper adds to the list. -/
def newRequest (s : PayloadState) (request : ℕ) (slot : Slot) (payload : Payload) : Option ChannelReq :=
  (proxyOf request).map fun proxyId =>
    ⟨s.chan.submitted.length, request, proxyId, slot, payload.format proxyId⟩

/-- The request that a step takes off a queue, and the channel. -/
def dequeued (s : PayloadState) : PayloadAct → Option (Channel × Waiting)
  | .submit _ _ _ => none
  | .complete r =>
    if r ∈ s.chan.inFlight then
      r.channel.bind fun ch => (s.queue ch).head?.map fun w => (ch, w)
    else none

def step (s : PayloadState) : PayloadAct → Option PayloadState
  | .submit request slot payload =>
    match s.newRequest request slot payload with
    | none => none
    | some r =>
      let chan := ChannelState.myEnqueue { s.chan with submitted := s.chan.submitted ++ [r] } r
      match pending s.chan r with
      | none => some { s with chan := chan }
      | some ch =>
        some { s with
          chan := chan
          queue := update s.queue ch (s.queue ch ++ [enqueue r payload])
          waited := s.waited ++ [(r, payload)] }
  | .complete r =>
    match s.chan.step (.complete r) with
    | none => none
    | some chan =>
      match s.dequeued (.complete r) with
      | none => some { s with chan := chan }
      | some (ch, w) =>
        some { s with
          chan := chan
          queue := update s.queue ch (s.queue ch).tail
          handed := s.handed ++ [dequeue w] }

/-- What is promised to a request that has to wait. -/
structure Ok (s : PayloadState) : Prop where
  synced : ∀ ch, (s.queue ch).map Waiting.req = s.chan.proxyCmd ch
  /-- It is in its queue or has been handed on, with the payload as it was given. -/
  kept : ∀ r p, (r, p) ∈ s.waited → (∃ ch, ∃ w ∈ s.queue ch, w.req = r ∧ w.payload = p) ∨
    ∃ h ∈ s.handed, h.req = r ∧ h.payload = p
  /-- Some completion hands on the head of a queue. -/
  dequeues : ∀ ch w rest, s.queue ch = w :: rest → ∃ q ∈ s.chan.inFlight, ∃ s',
    s.step (.complete q) = some s' ∧ s'.queue ch = rest ∧ s'.handed = s.handed ++ [dequeue w]
  sound : ∀ h ∈ s.handed, h.Sound

end PayloadState

/-- Without memory of its own, or a struct in the stack frame with a string. -/
def Payload.Survives : Payload → Prop
  | void => True
  | callForward _ _ => True
  | iccApdu _ _ => True
  | broadcastConfig configs => configs = []
  | _ => False

instance : DecidablePred Payload.Survives
  | .void | .callForward _ _ | .iccApdu _ _ => isTrue trivial
  | .broadcastConfig configs => inferInstanceAs (Decidable (configs = []))
  | .string _ | .strings _ | .ints _ => isFalse id

namespace PayloadState

/-- A request that the step takes off a queue has a payload that survives. -/
def Surviving (s : PayloadState) (act : PayloadAct) : Prop :=
  ∀ q ∈ s.dequeued act, q.2.payload.Survives

/-- A request that has to wait does so for one of its channel. -/
def Attended (s : PayloadState) : PayloadAct → Prop
  | .submit request slot payload =>
    ∀ r ∈ s.newRequest request slot payload, ∀ ch ∈ pending s.chan r,
      ∃ q ∈ s.chan.inFlight, q.channel = some ch
  | .complete _ => True

def Safe (s : PayloadState) (act : PayloadAct) : Prop := s.Surviving act ∧ s.Attended act

instance (s : PayloadState) : DecidablePred s.Safe
  | .submit request slot payload =>
    inferInstanceAs (Decidable ((∀ q ∈ s.dequeued _, q.2.payload.Survives) ∧
      ∀ r ∈ s.newRequest request slot payload, ∀ ch ∈ pending s.chan r, _))
  | .complete _ =>
    inferInstanceAs (Decidable ((∀ q ∈ s.dequeued _, q.2.payload.Survives) ∧ True))

end PayloadState

/-! ## Which payloads survive -/

lemma allocString_of_ne {s : HidlString} (hs : s ≠ []) (m : Region Cell) :
    allocString m s = (m.alloc false (stringCell s), some m.length) := if_neg hs

variable {m : Region Cell} {a : ℕ}

lemma readString_stringCell {s : HidlString} (hread : m.read a = some (stringCell s)) :
    readString m (some a) = some (some (s.takeWhile (· ≠ 0))) := by
  have hle := strlen_le s
  have hmem : (0 : UInt8) ∈ s.takeWhile (· ≠ 0) ++ List.replicate (s.length + 1 - strlen s) 0 :=
    mem_append_right _ (mem_replicate.mpr ⟨by omega, rfl⟩)
  have hchars : (s.takeWhile (· ≠ 0) ++ List.replicate (s.length + 1 - strlen s) 0).takeWhile (· ≠ 0)
      = s.takeWhile (· ≠ 0) := by
    have hall : ∀ c ∈ s.takeWhile (· ≠ 0), decide (c ≠ 0) = true := by
      intro c hc
      have hne := mem_takeWhile_imp hc
      exact hne
    rw [takeWhile_append_of_pos hall, takeWhile_replicate]
    simp
  simp only [readString, hread, stringCell]
  rw [if_pos hmem, hchars]

/-- The region after the first block was copied and the helper has returned. -/
def Payload.copied (p : Payload) : Region Cell :=
  (p.build.region.alloc false
    (((p.build.buf.bind p.build.region.read).map (Cell.copy p.build.buflen)).getD .garbage)).popStack

variable {req : ChannelReq} {p : Payload}

lemma enqueue_copied (hbf : req.bf ≠ .void) (hlen : p.build.buflen ≠ 0) :
    enqueue req p = ⟨req, p, p.copied, some p.build.region.length, p.build.buflen⟩ := if_pos ⟨hbf, hlen⟩

lemma enqueue_bare (hlen : p.build.buflen = 0) :
    enqueue req p = ⟨req, p, p.build.region.popStack, none, p.build.buflen⟩ :=
  if_neg fun h => h.2 hlen

lemma queuedLife_copied (hbf : req.bf ≠ .void) (hlen : p.build.buflen ≠ 0) :
    queuedLife req p =
      { req := req
        payload := p
        view := readPayload p p.copied (some p.build.region.length) p.build.buflen
        region := (clearPendingBuffer req.bf (some p.build.region.length) p.build.buflen p.copied).free
          (some p.build.region.length) } := by
  rw [queuedLife, enqueue_copied hbf hlen, dequeue, if_pos ⟨hbf, hlen⟩]

lemma queuedLife_bare (hlen : p.build.buflen = 0) :
    queuedLife req p =
      { req := req
        payload := p
        view := readPayload p p.build.region.popStack none p.build.buflen
        region := p.build.region.popStack } := by
  rw [queuedLife, enqueue_bare hlen, dequeue, if_neg fun h => h.2 hlen]

lemma not_sound_of_leak {k : ℕ} {c : Cell} (hbf : req.bf ≠ .void)
    (hblock : p.build.region[k]? = some ⟨c, false, true, 0⟩)
    (hclear : (clearPendingBuffer req.bf (some p.build.region.length) p.build.buflen p.copied)[k]?
      = p.copied[k]?) : ¬ (queuedLife req p).Sound := by
  have hk : k < p.build.region.length := (List.getElem?_eq_some_iff.mp hblock).1
  have hcopied : p.copied[k]? = some ⟨c, false, true, 0⟩ := by
    simp [Payload.copied, Region.popStack, Region.alloc, getElem?_map, getElem?_append_left hk, hblock, -map_append]
  rintro ⟨-, -, honce⟩
  by_cases hlen : p.build.buflen = 0
  · rw [queuedLife_bare hlen] at honce
    have hpop : p.build.region.popStack[k]? = some ⟨c, false, true, 0⟩ := by
      simp [Region.popStack, hblock]
    exact Region.not_freedOnce_of_getElem? hpop rfl (by simp) honce
  · rw [queuedLife_copied hbf hlen] at honce
    have hfinal := Region.getElem?_free_of_ne (m := clearPendingBuffer req.bf
      (some p.build.region.length) p.build.buflen p.copied) (p := some p.build.region.length) (a := k)
      (by simpa using hk.ne')
    rw [hclear, hcopied] at hfinal
    exact Region.not_freedOnce_of_getElem? hfinal rfl (by simp) honce

/-- A request whose payload is a struct with a string. -/
structure IsRecord (req : ChannelReq) (p : Payload) (fields : List ℤ) (str : HidlString) : Prop where
  build : p.build = buildRecord fields str
  bf : req.bf = .callFwst ∨ req.bf = .iccApdu
  reads : ∀ m data n xs q, data.bind m.read = some (.record xs [q]) →
    readPayload p m data n = (readString m q).map (.record xs)

namespace IsRecord

variable {fields : List ℤ} {str : HidlString}

lemma bf_ne_void (h : IsRecord req p fields str) : req.bf ≠ .void := by
  rcases h.bf with hbf | hbf <;> simp [hbf]

lemma clear (h : IsRecord req p fields str) {m : Region Cell} {a n : ℕ} {xs : List ℤ} {q : Option ℕ}
    (hread : m.read a = some (.record xs [q])) : clearPendingBuffer req.bf (some a) n m = m.free q := by
  rcases h.bf with hbf | hbf <;>
    simp [hbf, clearPendingBuffer, hread, Cell.pointersIn, Region.freeAll]

lemma build_nil (h : IsRecord req p fields []) :
    p.build = ⟨[⟨.record fields [none], true, true, 0⟩], some 0, 4 * (fields.length + 1)⟩ := h.build

lemma build_string (h : IsRecord req p fields str) (hstr : str ≠ []) :
    p.build = ⟨[⟨stringCell str, false, true, 0⟩, ⟨.record fields [some 0], true, true, 0⟩],
      some 1, 4 * (fields.length + 1)⟩ := by
  rw [h.build, buildRecord, allocString_of_ne hstr]
  rfl

lemma sound_nil (h : IsRecord req p fields []) : (queuedLife req p).Sound := by
  have hlen : p.build.buflen ≠ 0 := by simp [h.build_nil]
  have hcopied : p.copied = [⟨.record fields [none], true, false, 0⟩,
      ⟨.record fields [none], false, true, 0⟩] := by
    simp [Payload.copied, h.build_nil, Region.alloc, Region.popStack, Region.read, Cell.copy, Cell.size]
  have hcontent : p.content = some (.record fields none) := by
    rw [Payload.content, h.build_nil, h.reads _ _ _ fields none rfl]
    rfl
  have hread : p.copied.read 1 = some (.record fields [none]) := by rw [hcopied]; rfl
  have hview := fun n => h.reads _ (some 1) n fields none hread
  rw [queuedLife_copied h.bf_ne_void hlen, h.build_nil, length_singleton]
  refine ⟨?_, ?_, ?_⟩
  · rw [hview, hcontent]
    rfl
  · rw [hview]
    simp [readString]
  · rw [h.clear hread, hcopied]
    simp [Region.free, Region.FreedOnce]

lemma sound_string (h : IsRecord req p fields str) (hstr : str ≠ []) : (queuedLife req p).Sound := by
  have hbuild := h.build_string hstr
  have hlen : p.build.buflen ≠ 0 := by simp [hbuild]
  have hcopied : p.copied = [⟨stringCell str, false, true, 0⟩,
      ⟨.record fields [some 0], true, false, 0⟩, ⟨.record fields [some 0], false, true, 0⟩] := by
    simp [Payload.copied, hbuild, Region.alloc, Region.popStack, Region.read, Cell.copy, Cell.size]
  have hcontent : p.content = some (.record fields (some (str.takeWhile (· ≠ 0)))) := by
    rw [Payload.content, hbuild, h.reads _ _ _ fields (some 0) rfl, readString_stringCell rfl]
    rfl
  have hread : p.copied.read 2 = some (.record fields [some 0]) := by rw [hcopied]; rfl
  have hstring : p.copied.read 0 = some (stringCell str) := by rw [hcopied]; rfl
  have hview := fun n => h.reads _ (some 2) n fields (some 0) hread
  rw [queuedLife_copied h.bf_ne_void hlen, hbuild, length_cons, length_singleton]
  refine ⟨?_, ?_, ?_⟩
  · rw [hview, hcontent, readString_stringCell hstring]
    rfl
  · rw [hview, readString_stringCell hstring]
    simp
  · rw [h.clear hread, hcopied]
    simp [Region.free, Region.FreedOnce]

lemma sound (h : IsRecord req p fields str) : (queuedLife req p).Sound := by
  by_cases hstr : str = []
  · subst hstr
    exact h.sound_nil
  · exact h.sound_string hstr

end IsRecord

/-- The copy of an empty string is freed twice, and the original of another one not at all. -/
lemma string_not_sound (hbf : req.bf = .str) (s : HidlString) : ¬ (queuedLife req (.string s)).Sound := by
  by_cases hs : s = []
  · subst hs
    rintro ⟨-, -, honce⟩
    have hregion : (queuedLife req (.string [])).region = [⟨.garbage, false, false, 2⟩] := by
      rw [queuedLife_copied (by simp [hbf]) (by decide), hbf]
      rfl
    rw [hregion] at honce
    exact absurd honce (by decide)
  · have hbuild : (Payload.string s).build = ⟨[⟨stringCell s, false, true, 0⟩], some 0, 4⟩ := by
      rw [Payload.build, allocString_of_ne hs]
      rfl
    refine not_sound_of_leak (k := 0) (by simp [hbf]) (by rw [hbuild]; rfl) ?_
    rw [hbf, hbuild]
    exact Region.getElem?_free_of_ne (p := some 1) (by decide)

lemma ints_not_sound (hbf : req.bf = .ints) (xs : List ℤ) : ¬ (queuedLife req (.ints xs)).Sound := by
  refine not_sound_of_leak (k := 0) (by simp [hbf]) rfl ?_
  rw [hbf]
  rfl

lemma length_le_allocString (m : Region Cell) (s : HidlString) : m.length ≤ (allocString m s).1.length := by
  simp only [allocString]
  split_ifs <;> simp [Region.alloc]

lemma length_le_allocStrings (m : Region Cell) (ss : List HidlString) : m.length ≤ (allocStrings m ss).1.length := by
  induction ss generalizing m with
  | nil => exact le_rfl
  | cons s ss ih => exact (length_le_allocString m s).trans (ih _)

lemma lt_of_allocString {s : HidlString} (h : (allocString m s).2 = some a) :
    a < (allocString m s).1.length := by
  simp only [allocString] at h ⊢
  split_ifs at h ⊢
  rw [← Option.some.inj h]
  simp [Region.alloc]

lemma lt_of_mem_allocStrings {ss : List HidlString}
    (h : some a ∈ (allocStrings m ss).2) : a < (allocStrings m ss).1.length := by
  induction ss generalizing m with
  | nil => exact absurd h not_mem_nil
  | cons s ss ih =>
    rcases mem_cons.mp h with h | h
    · exact (lt_of_allocString h.symm).trans_le (length_le_allocStrings _ ss)
    · exact ih h

lemma pointersIn_copy_subset (n : ℕ) (c : Cell) : (c.copy n).pointersIn ⊆ c.pointersIn := by
  cases c <;> simp only [Cell.copy] <;> split_ifs <;> simp [Cell.pointersIn, take_subset]

lemma read_copied {c : Cell} (hbuf : p.build.buf = some a) (hread : p.build.region.read a = some c) :
    p.copied.read p.build.region.length = some (c.copy p.build.buflen) := by
  have hcell : (p.build.buf.bind p.build.region.read).map (Cell.copy p.build.buflen)
      = some (c.copy p.build.buflen) := by
    rw [hbuf, bind_some, hread, map_some]
  simp [Payload.copied, hcell, Region.read, Region.popStack, Region.alloc]

/-- The strings are freed, and the copy of the array, but not the array itself. -/
lemma strings_not_sound (hbf : req.bf = .strs) (ss : List HidlString) : ¬ (queuedLife req (.strings ss)).Sound := by
  set k := (allocStrings [] ss).1.length with hk
  have hblock : (Payload.strings ss).build.region[k]?
      = some ⟨.pointers (allocStrings [] ss).2, false, true, 0⟩ := by
    simp [Payload.build, Region.alloc, hk]
  have hread : (Payload.strings ss).build.region.read k = some (.pointers (allocStrings [] ss).2) := by
    rw [Region.read, hblock]
    rfl
  refine not_sound_of_leak (k := k) (by simp [hbf]) hblock ?_
  simp only [hbf, clearPendingBuffer, bind_some, read_copied rfl hread, map_some, getD_some]
  refine Region.getElem?_freeAll_of_notMem fun hmem => ?_
  exact absurd (lt_of_mem_allocStrings (pointersIn_copy_subset _ _ (mem_of_mem_take hmem)))
    (lt_irrefl k)

lemma readPayload_broadcastConfig {configs : List (List ℤ)} {n : ℕ}
    {ps : List (Option ℕ)} (hread : m.read a = some (.pointers ps)) (hlen : 4 * ps.length = n) :
    readPayload (.broadcastConfig configs) m (some a) n = (ps.mapM (readConfig m)).map .configs := by
  simp only [readPayload, bind_some, hread, if_pos hlen]

lemma broadcastConfig_not_sound (hbf : req.bf = .raw) (c : List ℤ) (cs : List (List ℤ)) :
    ¬ (queuedLife req (.broadcastConfig (c :: cs))).Sound := by
  set p := Payload.broadcastConfig (c :: cs) with hp
  set ps : List (Option ℕ) := (List.range (cs.length + 1)).map some with hps
  have hlen : p.build.buflen = 4 * (cs.length + 1) := rfl
  have harray : p.build.region.read (cs.length + 1) = some (.pointers ps) := by
    simp [hp, Payload.build, Region.read, Region.alloc, hps]
  have hcopy : (Cell.pointers ps).copy p.build.buflen = .pointers ps := by
    have hcount : ps.length = cs.length + 1 := by simp [hps]
    have htake : ps.take (cs.length + 1) = ps := take_of_length_le hcount.le
    simp [Cell.copy, Cell.size, hlen, hcount, htake]
  have hdead : p.copied.read 0 = none := by
    simp [hp, Payload.copied, Payload.build, Region.read, Region.popStack, Region.alloc]
  have hconfigs : ps.mapM (readConfig p.copied) = none := by
    simp [hps, range_succ_eq_map, readConfig, hdead]
  have hread := read_copied (p := p) (by simp [hp, Payload.build]) harray
  have hview : readPayload p p.copied (some p.build.region.length) p.build.buflen = none := by
    rw [hcopy] at hread
    rw [readPayload_broadcastConfig hread (by simp [hps, hlen]), hconfigs, map_none]
  rintro ⟨-, hlive, -⟩
  rw [queuedLife_copied (by simp [hbf]) (by simp [hlen])] at hlive
  exact hlive hview

lemma sound_of_bare {v : View} (hlen : p.build.buflen = 0) (hcontent : p.content = some v)
    (hview : readPayload p p.build.region.popStack none 0 = some v)
    (honce : p.build.region.popStack.FreedOnce) : (queuedLife req p).Sound := by
  rw [queuedLife_bare hlen, hlen]
  exact ⟨hview.trans hcontent.symm, by simp [hview], honce⟩

/-- **Which payloads survive the queue.** -/
lemma queuedLife_sound_iff (hbf : req.bf = p.queuedFormat) : (queuedLife req p).Sound ↔ p.Survives := by
  cases p with
  | void => exact iff_of_true (sound_of_bare rfl rfl rfl (by decide)) trivial
  | string s => exact iff_of_false (string_not_sound hbf s) id
  | strings ss => exact iff_of_false (strings_not_sound hbf ss) id
  | ints xs => exact iff_of_false (ints_not_sound hbf xs) id
  | callForward fields number =>
    have hrecord : IsRecord req (.callForward fields number) fields number :=
      ⟨rfl, .inl hbf, fun m data n xs q h => by simp [readPayload, h]⟩
    exact iff_of_true hrecord.sound trivial
  | iccApdu fields data =>
    have hrecord : IsRecord req (.iccApdu fields data) fields data :=
      ⟨rfl, .inr hbf, fun m data n xs q h => by simp [readPayload, h]⟩
    exact iff_of_true hrecord.sound trivial
  | broadcastConfig configs =>
    cases configs with
    | nil => exact iff_of_true (sound_of_bare rfl rfl rfl (by decide)) rfl
    | cons c cs => exact iff_of_false (broadcastConfig_not_sound hbf c cs) (cons_ne_nil c cs)

lemma setGsmBroadcastConfig_sound_iff (hbf : req.bf = .raw) (configInfo : List GsmBroadcastSmsConfigInfo) :
    (queuedLife req (setGsmBroadcastConfig configInfo)).Sound ↔ configInfo = [] :=
  (queuedLife_sound_iff hbf).trans map_eq_nil_iff

lemma setCdmaBroadcastConfig_sound_iff (hbf : req.bf = .raw) (configInfo : List CdmaBroadcastSmsConfigInfo) :
    (queuedLife req (setCdmaBroadcastConfig configInfo)).Sound ↔ configInfo = [] :=
  (queuedLife_sound_iff hbf).trans map_eq_nil_iff

namespace PayloadState

/-! ## What a step does -/

/-- The moves of the queues with their memory. -/
inductive Move (s : PayloadState) (act : PayloadAct) : PayloadState → Prop
  | quiet {chan : ChannelState} (hdeq : s.dequeued act = none) (hatt : s.Attended act)
      (hqueue : chan.proxyCmd = s.chan.proxyCmd)
      (hflying : ∀ c, s.queue c ≠ [] → ∀ q ∈ s.chan.inFlight, q.channel = some c → q ∈ chan.inFlight) :
      Move s act { s with chan := chan }
  | wait {chan : ChannelState} {ch : Channel} {r : ChannelReq} {payload : Payload}
      (hdeq : s.dequeued act = none)
      (hatt : s.Attended act ↔ ∃ q ∈ s.chan.inFlight, q.channel = some ch)
      (hqueue : chan.proxyCmd = update s.chan.proxyCmd ch (s.chan.proxyCmd ch ++ [r]))
      (hflying : chan.inFlight = s.chan.inFlight) (hr : r.channel = some ch)
      (hbf : r.bf = payload.queuedFormat) :
      Move s act { s with
        chan := chan
        queue := update s.queue ch (s.queue ch ++ [enqueue r payload])
        waited := s.waited ++ [(r, payload)] }
  | next {chan : ChannelState} {ch : Channel} {w : Waiting} {rest : List Waiting}
      (hdeq : s.dequeued act = some (ch, w)) (hatt : s.Attended act) (hhead : s.queue ch = w :: rest)
      (hqueue : chan.proxyCmd = update s.chan.proxyCmd ch (s.chan.proxyCmd ch).tail)
      (hflying : ∀ c ≠ ch, ∀ q ∈ s.chan.inFlight, q.channel = some c → q ∈ chan.inFlight)
      (hw : w.req ∈ chan.inFlight) :
      Move s act { s with
        chan := chan
        queue := update s.queue ch rest
        handed := s.handed ++ [dequeue w] }

variable {ch : Channel} {r : ChannelReq} {s s' : PayloadState}

lemma myEnqueue_of_pending {s : ChannelState} (h : pending s r = some ch) :
    (s.myEnqueue r).proxyCmd = update s.proxyCmd ch (s.proxyCmd ch ++ [r])
      ∧ (s.myEnqueue r).inFlight = s.inFlight := by
  simp only [pending] at h
  split_ifs at h with hbf
  rcases filter_eq_some_iff.mp h with ⟨hr, hbusy⟩
  simp only [ChannelState.myEnqueue, if_neg hbf, hr, if_pos hbusy, and_self]

lemma myEnqueue_of_not_pending {s : ChannelState} (h : pending s r = none) :
    (s.myEnqueue r).proxyCmd = s.proxyCmd ∧ (s.myEnqueue r).inFlight = s.inFlight ++ [r] := by
  simp only [ChannelState.myEnqueue]
  by_cases hbf : r.bf = .ignore
  · rw [if_pos hbf]
    exact ⟨rfl, rfl⟩
  · simp only [pending, if_neg hbf] at h
    rw [if_neg hbf]
    cases hr : r.channel with
    | none => exact ⟨rfl, rfl⟩
    | some ch =>
      rw [hr, filter_eq_none_iff] at h
      simp only [if_neg (h ch rfl)]
      exact ⟨rfl, rfl⟩

lemma channel_of_pending {s : ChannelState} (h : pending s r = some ch) : r.channel = some ch := by
  simp only [pending] at h
  split_ifs at h
  exact (filter_eq_some_iff.mp h).1

variable {slot : Slot}

lemma format_of_channel {proxyId : Proxy} (p : Payload)
    (h : proxyId.channel slot = some ch) : p.format proxyId = p.queuedFormat := by
  cases proxyId <;> simp only [Proxy.channel, reduceCtorEq] at h <;> cases p <;> rfl

variable {payload : Payload}

lemma bf_of_newRequest {request : ℕ}
    (hnew : s.newRequest request slot payload = some r) (hr : r.channel = some ch) : r.bf = payload.queuedFormat := by
  rcases map_eq_some_iff.mp hnew with ⟨proxyId, -, rfl⟩
  exact format_of_channel payload hr

lemma move_submit {request : ℕ}
    (hs' : s.step (.submit request slot payload) = some s') : Move s (.submit request slot payload) s' := by
  simp only [step] at hs'
  split at hs'
  · cases hs'
  · next r hnew =>
    -- the list of submissions is not looked at
    have hsame : pending { s.chan with submitted := s.chan.submitted ++ [r] } r = pending s.chan r := rfl
    cases hpend : pending s.chan r with
    | none =>
      rcases myEnqueue_of_not_pending (hsame.trans hpend) with ⟨hqueue, hflying⟩
      rw [hpend] at hs'
      refine Option.some.inj hs' ▸ Move.quiet rfl ?_ hqueue fun c _ q hq _ => ?_
      · intro r' hr' ch hch
        rw [← Option.some.inj (hnew.symm.trans hr'), hpend] at hch
        cases hch
      · rw [hflying]
        exact mem_append_left _ hq
    | some ch =>
      rcases myEnqueue_of_pending (hsame.trans hpend) with ⟨hqueue, hflying⟩
      have hr := channel_of_pending hpend
      rw [hpend] at hs'
      refine Option.some.inj hs' ▸ Move.wait rfl ?_ hqueue hflying hr (bf_of_newRequest hnew hr)
      refine ⟨fun h => h r hnew ch hpend, fun h r' hr' c hc => ?_⟩
      rw [← Option.some.inj (hnew.symm.trans hr'), hpend] at hc
      exact Option.some.inj hc ▸ h

lemma proxyCmd_onRequestComplete_self {s : ChannelState} (hr : r.channel = some ch) :
    (s.onRequestComplete r).proxyCmd = update s.proxyCmd ch (s.proxyCmd ch).tail := by
  rw [ChannelState.onRequestComplete_of_channel hr]
  cases hqueue : s.proxyCmd ch with
  | nil =>
    show s.proxyCmd = update s.proxyCmd ch []
    rw [← hqueue, update_eq_self]
  | cons head rest => rfl

variable {q : ChannelReq}

lemma mem_inFlight_onRequestComplete {s : ChannelState} (hq : q ∈ s.inFlight)
    (hne : q ≠ r) : q ∈ (s.onRequestComplete r).inFlight := by
  have hmem : q ∈ s.inFlight.erase r := (mem_erase_of_ne hne).mpr hq
  cases hr : r.channel with
  | none => simpa only [ChannelState.onRequestComplete, hr] using hmem
  | some ch =>
    rw [ChannelState.onRequestComplete_of_channel hr]
    cases s.proxyCmd ch with
    | nil => exact hmem
    | cons head rest => exact mem_append_left _ hmem

lemma mem_inFlight_head {s : ChannelState} {head : ChannelReq} {rest : List ChannelReq}
    (hr : r.channel = some ch) (hqueue : s.proxyCmd ch = head :: rest) : head ∈ (s.onRequestComplete r).inFlight := by
  rw [ChannelState.onRequestComplete_of_channel hr, hqueue]
  exact mem_append_right _ (mem_singleton_self head)

/-- A completion of a request at the vendor that takes nothing off a queue. -/
lemma move_complete_quiet (hmem : r ∈ s.chan.inFlight) (hdeq : s.dequeued (.complete r) = none)
    (hqueue : (s.chan.onRequestComplete r).proxyCmd = s.chan.proxyCmd)
    (hempty : ∀ c, r.channel = some c → s.queue c = [])
    (hs' : s.step (.complete r) = some s') : Move s (.complete r) s' := by
  simp only [step, ChannelState.step, if_pos hmem, hdeq] at hs'
  refine Option.some.inj hs' ▸ Move.quiet hdeq trivial hqueue fun c hc q hq hqc => ?_
  exact mem_inFlight_onRequestComplete hq fun heq => hc (hempty c (heq ▸ hqc))

lemma move_complete (hsync : ∀ ch, (s.queue ch).map Waiting.req = s.chan.proxyCmd ch)
    (hs' : s.step (.complete r) = some s') : Move s (.complete r) s' := by
  by_cases hmem : r ∈ s.chan.inFlight
  · cases hr : r.channel with
    | none =>
      have hdeq : s.dequeued (.complete r) = none := by simp [dequeued, hmem, hr]
      refine move_complete_quiet hmem hdeq (funext fun ch => ?_) (by simp [hr]) hs'
      exact ChannelState.proxyCmd_onRequestComplete (by simp [hr])
    | some ch =>
      have hcmd := proxyCmd_onRequestComplete_self (s := s.chan) hr
      have hreqs := hsync ch
      cases hqueue : s.queue ch with
      | nil =>
        have hdeq : s.dequeued (.complete r) = none := by simp [dequeued, hmem, hr, hqueue]
        rw [hqueue, map_nil] at hreqs
        rw [← hreqs, tail_nil, hreqs, update_eq_self] at hcmd
        refine move_complete_quiet hmem hdeq hcmd (fun c hc => ?_) hs'
        exact Option.some.inj (hr.symm.trans hc) ▸ hqueue
      | cons w rest =>
        have hdeq : s.dequeued (.complete r) = some (ch, w) := by simp [dequeued, hmem, hr, hqueue]
        rw [hqueue, map_cons] at hreqs
        simp only [step, ChannelState.step, if_pos hmem, hdeq, hqueue, tail_cons] at hs'
        refine Option.some.inj hs' ▸ Move.next hdeq trivial hqueue hcmd (fun c hc q hq hqc => ?_)
          (mem_inFlight_head hr hreqs.symm)
        refine mem_inFlight_onRequestComplete hq fun heq => hc ?_
        exact Option.some.inj (hqc.symm.trans (heq ▸ hr))
  · have hdeq : s.dequeued (.complete r) = none := by simp [dequeued, hmem]
    simp only [step, ChannelState.step, if_neg hmem, hdeq] at hs'
    split_ifs at hs'
    exact Option.some.inj hs' ▸ Move.quiet hdeq trivial rfl fun _ _ _ hq _ => hq

/-! ## The invariant -/

/-- What waits in a queue is what was put there, and waits for a request at the vendor. -/
structure Inv (s : PayloadState) : Prop where
  synced : ∀ ch, (s.queue ch).map Waiting.req = s.chan.proxyCmd ch
  kept : ∀ r p, (r, p) ∈ s.waited → (∃ ch, ∃ w ∈ s.queue ch, w.req = r ∧ w.payload = p) ∨
    ∃ h ∈ s.handed, h.req = r ∧ h.payload = p
  sound : ∀ h ∈ s.handed, h.Sound
  channel : ∀ ch, ∀ w ∈ s.queue ch, w.req.channel = some ch
  waiting : ∀ ch, ∀ w ∈ s.queue ch, w = enqueue w.req w.payload ∧ w.req.bf = w.payload.queuedFormat
  attended : ∀ ch, s.queue ch ≠ [] → ∃ q ∈ s.chan.inFlight, q.channel = some ch

lemma init_inv : init.Inv where
  synced _ := rfl
  kept _ _ h := absurd h not_mem_nil
  sound _ h := absurd h not_mem_nil
  channel _ _ h := absurd h not_mem_nil
  waiting _ _ h := absurd h not_mem_nil
  attended _ h := absurd rfl h

lemma move_of_step {act : PayloadAct} (h : s.Inv) (hs' : s.step act = some s') : Move s act s' := by
  cases act with
  | submit request slot payload => exact move_submit hs'
  | complete r => exact move_complete h.synced hs'

variable {w : Waiting}

/-- The completion of a request of the channel takes the head off its queue. -/
lemma step_complete_of_head
    {rest : List Waiting} (hq : q ∈ s.chan.inFlight) (hqc : q.channel = some ch) (hhead : s.queue ch = w :: rest) :
    s.step (.complete q) = some { s with
      chan := s.chan.onRequestComplete q
      queue := update s.queue ch rest
      handed := s.handed ++ [dequeue w] } := by
  simp [step, ChannelState.step, dequeued, hq, hqc, hhead]

lemma Inv.ok (h : s.Inv) : s.Ok where
  synced := h.synced
  kept := h.kept
  dequeues ch w rest hhead := by
    rcases h.attended ch (by simp [hhead]) with ⟨q, hq, hqc⟩
    exact ⟨q, hq, _, step_complete_of_head hq hqc hhead, update_self .., rfl⟩
  sound := h.sound

/-- The completion of a request of another channel, or of none, leaves the queue alone. -/
lemma queue_of_complete (hqc : q.channel ≠ some ch)
    (hs' : s.step (.complete q) = some s') : s'.queue ch = s.queue ch := by
  simp only [step] at hs'
  split at hs'
  · cases hs'
  · split at hs'
    · exact Option.some.inj hs' ▸ rfl
    · next c w hdeq =>
      have hc : q.channel = some c := by
        simp only [dequeued] at hdeq
        split_ifs at hdeq
        rcases bind_eq_some_iff.mp hdeq with ⟨c', hc', hmap⟩
        rcases map_eq_some_iff.mp hmap with ⟨w', -, heq⟩
        exact (Prod.mk.inj heq).1 ▸ hc'
      have hne : ch ≠ c := fun heq => hqc (heq ▸ hc)
      rw [← Option.some.inj hs']
      exact update_of_ne hne _ _

lemma not_ok_of_stuck (hqueue : s.queue ch ≠ []) (hnone : ∀ q ∈ s.chan.inFlight, q.channel ≠ some ch) : ¬ s.Ok := by
  intro hok
  rcases exists_cons_of_ne_nil hqueue with ⟨w, rest, hhead⟩
  rcases hok.dequeues ch w rest hhead with ⟨q, hq, s', hs', hrest, -⟩
  rw [queue_of_complete (hnone q hq) hs', hhead] at hrest
  exact cons_ne_self w rest hrest

lemma enqueue_req (req : ChannelReq) (p : Payload) : (enqueue req p).req = req := by
  simp only [enqueue]
  split_ifs <;> rfl

lemma enqueue_payload (req : ChannelReq) (p : Payload) : (enqueue req p).payload = p := by
  simp only [enqueue]
  split_ifs <;> rfl

lemma Inv.dequeue_sound_iff (h : s.Inv)
    (hw : w ∈ s.queue ch) : (dequeue w).Sound ↔ w.payload.Survives := by
  rcases h.waiting ch w hw with ⟨heq, hbf⟩
  have hlife : dequeue w = queuedLife w.req w.payload := by rw [queuedLife, ← heq]
  rw [hlife]
  exact queuedLife_sound_iff hbf

lemma Inv.wait (h : s.Inv) {chan : ChannelState}
    (hatt : ∃ q ∈ s.chan.inFlight, q.channel = some ch)
    (hqueue : chan.proxyCmd = update s.chan.proxyCmd ch (s.chan.proxyCmd ch ++ [r]))
    (hflying : chan.inFlight = s.chan.inFlight) (hr : r.channel = some ch) (hbf : r.bf = payload.queuedFormat) :
    Inv { s with
      chan := chan
      queue := update s.queue ch (s.queue ch ++ [enqueue r payload])
      waited := s.waited ++ [(r, payload)] } where
  synced c := by
    simp only [hqueue, update_apply]
    split_ifs with hc
    · rw [map_append, h.synced ch, map_singleton, enqueue_req]
    · exact h.synced c
  kept q p hmem := by
    rcases mem_append.mp hmem with hmem | hmem
    · rcases h.kept q p hmem with ⟨c, w, hw, heq⟩ | hhanded
      · exact .inl ⟨c, w, mem_update_append_iff.mpr (.inr hw), heq⟩
      · exact .inr hhanded
    · rcases Prod.mk.inj (mem_singleton.mp hmem) with ⟨rfl, rfl⟩
      exact .inl ⟨ch, enqueue q p, mem_update_append_iff.mpr (.inl ⟨rfl, rfl⟩), enqueue_req q p,
        enqueue_payload q p⟩
  sound := h.sound
  channel c w hw := by
    rcases mem_update_append_iff.mp hw with ⟨rfl, rfl⟩ | hw
    · rw [enqueue_req, hr]
    · exact h.channel c w hw
  waiting c w hw := by
    rcases mem_update_append_iff.mp hw with ⟨-, rfl⟩ | hw
    · rw [enqueue_req, enqueue_payload]
      exact ⟨rfl, hbf⟩
    · exact h.waiting c w hw
  attended c hne := by
    simp only [hflying]
    by_cases hc : c = ch
    · exact hc ▸ hatt
    · exact h.attended c (by simpa only [update_of_ne hc] using hne)

lemma Inv.next (h : s.Inv) {chan : ChannelState} {rest : List Waiting} (hhead : s.queue ch = w :: rest)
    (hqueue : chan.proxyCmd = update s.chan.proxyCmd ch (s.chan.proxyCmd ch).tail)
    (hflying : ∀ c ≠ ch, ∀ q ∈ s.chan.inFlight, q.channel = some c → q ∈ chan.inFlight)
    (hreq : w.req ∈ chan.inFlight) (hsurv : w.payload.Survives) :
    Inv { s with
      chan := chan
      queue := update s.queue ch rest
      handed := s.handed ++ [dequeue w] } where
  synced c := by
    simp only [hqueue, update_apply]
    split_ifs with hc
    · rw [← h.synced ch, hhead, map_cons, tail_cons]
    · exact h.synced c
  kept q p hmem := by
    rcases h.kept q p hmem with ⟨c, x, hx, heq⟩ | ⟨x, hx, heq⟩
    · rcases (mem_iff_update_tail hhead).mp hx with ⟨-, rfl⟩ | hx
      · exact .inr ⟨dequeue x, mem_append_right _ (mem_singleton_self _), heq⟩
      · exact .inl ⟨c, x, hx, heq⟩
    · exact .inr ⟨x, mem_append_left _ hx, heq⟩
  sound x hx := by
    rcases mem_append.mp hx with hx | hx
    · exact h.sound x hx
    · have hw : w ∈ s.queue ch := hhead ▸ mem_cons_self
      exact mem_singleton.mp hx ▸ (h.dequeue_sound_iff hw).mpr hsurv
  channel c x hx := h.channel c x ((mem_iff_update_tail hhead).mpr (.inr hx))
  waiting c x hx := h.waiting c x ((mem_iff_update_tail hhead).mpr (.inr hx))
  attended c hne := by
    by_cases hc : c = ch
    · exact ⟨w.req, hreq, hc ▸ h.channel ch w (hhead ▸ mem_cons_self)⟩
    · rcases h.attended c (by simpa only [update_of_ne hc] using hne) with ⟨q, hq, hqc⟩
      exact ⟨q, hflying c hc q hq hqc, hqc⟩

/-- **One step.** -/
lemma step_inv {act : PayloadAct} (h : s.Inv) (hsafe : s.Safe act) (hs' : s.step act = some s') : s'.Inv := by
  cases move_of_step h hs' with
  | quiet _ _ hqueue hflying =>
    refine ⟨fun ch => hqueue ▸ h.synced ch, h.kept, h.sound, h.channel, h.waiting, fun ch hne => ?_⟩
    rcases h.attended ch hne with ⟨q, hq, hqc⟩
    exact ⟨q, hflying ch hne q hq hqc, hqc⟩
  | wait _ hatt hqueue hflying hr hbf => exact h.wait (hatt.mp hsafe.2) hqueue hflying hr hbf
  | next hdeq _ hhead hqueue hflying hreq =>
    exact h.next hhead hqueue hflying hreq (hsafe.1 _ hdeq)

/-- **An unsafe step leads to a state that is not right.** -/
lemma not_ok_of_not_safe {act : PayloadAct} (h : s.Inv)
    (hnot : ¬ s.Safe act) (hs' : s.step act = some s') : ¬ s'.Ok := by
  cases move_of_step h hs' with
  | quiet hdeq hatt _ _ => exact absurd ⟨fun q hq => by simp [hdeq] at hq, hatt⟩ hnot
  | @wait chan ch r payload hdeq hatt hqueue hflying hr hbf =>
    -- it waits for nobody
    refine @not_ok_of_stuck ch _ (by simp) fun q hq hqc => hnot ?_
    exact ⟨fun q hq => by simp [hdeq] at hq, hatt.mpr ⟨q, hflying ▸ hq, hqc⟩⟩
  | @next chan ch w rest hdeq hatt hhead hqueue hflying hreq =>
    intro hok
    have hw : w ∈ s.queue ch := hhead ▸ mem_cons_self
    have hsound := hok.sound (dequeue w) (mem_append_right _ (mem_singleton_self _))
    refine hnot ⟨fun q hq => ?_, hatt⟩
    rw [← Option.some.inj (hdeq.symm.trans hq)]
    exact (h.dequeue_sound_iff hw).mp hsound

/-- **The promise holds all along a run iff all its steps are safe.** -/
theorem payloads_ok_iff (acts : List PayloadAct) (s : PayloadState) (hrun : run step init acts = some s) :
    Along step Ok init acts ↔ StepsMeet step Safe init acts := by
  exact along_iff_stepsMeet (fun s act s' => step_inv) (fun s h => h.ok) (fun s act s' => not_ok_of_not_safe) init_inv hrun

/-- While `GET_SIM_STATUS` is at the vendor, `QUERY_CALL_FORWARD_STATUS` and `SIM_TRANSMIT_APDU_BASIC` wait;
both are taken off the queue. -/
def payloadRun : List PayloadAct :=
  [.submit 1 .socket1 .void, .submit 33 .socket1 (callForwardInfo 2 0 1 129 0 [49, 50, 51]),
    .submit 114 .socket1 (simApdu 0 160 176 0 0 2 []), .complete ⟨0, 1, .proxy1, .socket1, .void⟩,
    .complete ⟨1, 33, .proxy1, .socket1, .callFwst⟩]

theorem payloads_ok_payloadRun :
    (run step init payloadRun).map (fun s => s.handed.map Handed.view)
        = some [some (.record [2, 0, 1, 129, 0] (some [49, 50, 51])),
          some (.record [0, 160, 176, 0, 0, 2] none)]
      ∧ Along step Ok init payloadRun := by
  refine (and_iff_left_of_imp fun hrun => ?_).mpr (by decide)
  rcases map_eq_some_iff.mp hrun with ⟨s, hs, _⟩
  exact (payloads_ok_iff payloadRun s hs).mpr (by decide)

/-- `SIM_OPEN_CHANNEL` for the application `A0000`, while `GET_SIM_STATUS` is at the vendor: the vendor is given
four characters without an end, the string is never freed, and the copy is freed twice. -/
theorem queued_string_freed_twice :
    ∃ s, run step init [.submit 1 .socket1 .void, .submit 115 .socket1 (.string [65, 48, 48, 48, 48]),
        .complete ⟨0, 1, .proxy1, .socket1, .void⟩] = some s
      ∧ s.handed.map Handed.view = [none]
      ∧ s.handed.map (fun h => h.region.map Block.frees) = [[0, 2]] ∧ ¬ s.Ok := by
  have hrun : ((run step init [.submit 1 .socket1 .void,
        .submit 115 .socket1 (.string [65, 48, 48, 48, 48]),
        .complete ⟨0, 1, .proxy1, .socket1, .void⟩]).map fun s =>
          (s.handed.map Handed.view, s.handed.map fun h => h.region.map Block.frees))
      = some ([none], [[0, 2]]) := by decide
  rcases map_eq_some_iff.mp hrun with ⟨s, hs, heq⟩
  rcases Prod.mk.inj heq with ⟨hview, hfrees⟩
  refine ⟨s, hs, hview, hfrees, fun hok => ?_⟩
  rcases map_eq_singleton_iff.mp hview with ⟨x, hx, hnone⟩
  exact (hok.sound x (by simp [hx])).live hnone

end PayloadState

end Hal
