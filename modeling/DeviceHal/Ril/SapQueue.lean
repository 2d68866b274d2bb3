import DeviceHal.Core.Machine
import DeviceHal.Core.Keyed
import DeviceHal.Core.Queues
import DeviceHal.Ril.Types

/-!
# Outstanding SAP requests

`RilSapSocket` keeps the requests it has given to the vendor in `pendingResponseQueue`, the newest in
front.  The vendor completes a request by its address, but `checkAndDequeue` looks for the message id
and the token, both of which the client chose.

Requests and their headers are heap blocks: `request` and `header` say which blocks are live and what is
in them.  A completion of a request that has been released reads released memory; what it finds there
is a parameter of the action.

* `Exact` — completing a request removes and releases that request and leaves the other entries as they
  are, contents included; completing one that is not in the queue leaves all of them.
* **`completions_exact_iff`** — that is what every step of a run does iff no step finds another entry
  with the id and the token first.
-/

namespace Hal

open List Option Function

/-- `MsgHeader`, by what the queue looks at. -/
structure MsgHeader where
  id : ℤ
  token : ℤ

/-- `SapSocketRequest`; `curr` is the address of the header. -/
structure SapSocketRequest where
  token : ℤ
  curr : ℕ
  socketId : ℤ
deriving DecidableEq

structure Stale where
  request : SapSocketRequest
  header : MsgHeader

/-- `dispatchRequest` with a header at an address, and the outcome of `malloc`; `sOnRequestComplete`. -/
inductive SapAct where
  | dispatchRequest (slot : Slot) (req : ℕ) (hdr : MsgHeader) (alloc : Option ℕ)
  | onRequestComplete (t : ℕ) (stale : Stale)

/-- The queue of each socket, front first, and the live blocks. -/
structure SapState where
  pendingResponseQueue : Slot → List ℕ
  request : ℕ → Option SapSocketRequest
  header : ℕ → Option MsgHeader

namespace SapState

def init : SapState := ⟨fun _ => [], fun _ => none, fun _ => none⟩

def getSocketById (socketId : ℤ) : Option Slot :=
  if socketId = 0 then some .socket1 else if socketId = 1 then some .socket2 else none

lemma getSocketById_id (slot : Slot) : getSocketById slot.id = some slot := by
  cases slot <;> rfl

def requestAt (s : SapState) (stale : Stale) (a : ℕ) : SapSocketRequest :=
  (s.request a).getD stale.request

def headerAt (s : SapState) (stale : Stale) (a : ℕ) : MsgHeader :=
  (s.header a).getD stale.header

def Matches (s : SapState) (stale : Stale) (hdr : MsgHeader) (a : ℕ) : Bool :=
  hdr.token = (s.requestAt stale a).token ∧ hdr.id = (s.headerAt stale (s.requestAt stale a).curr).id

/-- `checkAndDequeue`: the first entry that passes the test is unlinked and released. -/
def checkAndDequeue (s : SapState) (stale : Stale) (slot : Slot) (hdr : MsgHeader) : SapState :=
  match (s.pendingResponseQueue slot).find? (s.Matches stale hdr) with
  | none => s
  | some a =>
    { s with
      pendingResponseQueue := update s.pendingResponseQueue slot
        ((s.pendingResponseQueue slot).eraseP (s.Matches stale hdr))
      request := update s.request a none }

/-- `sOnRequestComplete` and `onRequestComplete`: the header of the request is released in any case, the
request itself by `checkAndDequeue`, or here if its socket does not exist. -/
def onRequestComplete (s : SapState) (t : ℕ) (stale : Stale) : SapState :=
  let r := s.requestAt stale t
  match getSocketById r.socketId with
  | none =>
    { s with
      request := update s.request t none
      header := update s.header r.curr none }
  | some slot =>
    let s' := s.checkAndDequeue stale slot (s.headerAt stale r.curr)
    { s' with header := update s'.header r.curr none }

/-- `dispatchRequest`: the new request goes to the front; without memory the header is released. -/
def dispatchRequest (s : SapState) (slot : Slot) (req : ℕ) (hdr : MsgHeader) : Option ℕ → SapState
  | none => s
  | some a =>
    { pendingResponseQueue := update s.pendingResponseQueue slot
        (a :: s.pendingResponseQueue slot)
      request := update s.request a (some ⟨hdr.token, req, slot.id⟩)
      header := update s.header req (some hdr) }

/-- One action.  Memory is given out only while it is free. -/
def step (s : SapState) : SapAct → Option SapState
  | .dispatchRequest slot req hdr alloc =>
    if s.header req = none ∧ ∀ a ∈ alloc, s.request a = none then
      some (s.dispatchRequest slot req hdr alloc)
    else none
  | .onRequestComplete t stale => some (s.onRequestComplete t stale)

/-- An entry of the queue: its address and what is there. -/
def entry (s : SapState) (a : ℕ) : ℕ × Option SapSocketRequest × Option MsgHeader :=
  (a, s.request a, (s.request a).bind fun r => s.header r.curr)

def entries (s : SapState) (slot : Slot) : List (ℕ × Option SapSocketRequest × Option MsgHeader) :=
  (s.pendingResponseQueue slot).map s.entry

/-- Completing `t` takes its entry out and releases it, and nothing else. -/
structure Removes (s : SapState) (t : ℕ) (slot : Slot) (s' : SapState) : Prop where
  own : s'.entries slot = (s.entries slot).filter fun e => e.1 ≠ t
  others : ∀ slot' ≠ slot, s'.entries slot' = s.entries slot'
  released : s'.request = update s.request t none

def Exact (s : SapState) : SapAct → Prop
  | .dispatchRequest .. => True
  | .onRequestComplete t stale => ∀ s' ∈ s.step (.onRequestComplete t stale),
      (∀ slot, t ∈ s.pendingResponseQueue slot → s.Removes t slot s')
      ∧ ((∀ slot, t ∉ s.pendingResponseQueue slot) → s'.entries = s.entries)

/-- No entry in front of the request's own, and none at all if it has none, has the id and the token; and
the header released with a request that is not in the queue is no entry's. -/
def Unambiguous (s : SapState) : SapAct → Prop
  | .dispatchRequest .. => True
  | .onRequestComplete t stale =>
    (∀ slot ∈ getSocketById (s.requestAt stale t).socketId,
      ∀ a ∈ (s.pendingResponseQueue slot).takeWhile (· ≠ t),
        ¬ s.Matches stale (s.headerAt stale (s.requestAt stale t).curr) a = true)
    ∧ ((∀ slot, t ∉ s.pendingResponseQueue slot) →
      ∀ slot, ∀ a ∈ s.pendingResponseQueue slot, ∀ r ∈ s.request a,
        r.curr ≠ (s.requestAt stale t).curr)

/-! ## The blocks of the queue -/

structure Inv (s : SapState) : Prop where
  nodup : ∀ slot, (s.pendingResponseQueue slot).Nodup
  live : ∀ slot, ∀ a ∈ s.pendingResponseQueue slot, ∃ r hdr, s.request a = some r
    ∧ s.header r.curr = some hdr ∧ r.socketId = slot.id ∧ hdr.token = r.token
  queued : ∀ a r, s.request a = some r → ∃ slot, a ∈ s.pendingResponseQueue slot
  owner : ∀ a b r r', s.request a = some r → s.request b = some r' → r.curr = r'.curr → a = b

lemma init_inv : init.Inv := by
  refine ⟨fun slot => nodup_nil, fun slot a ha => ?_, fun a r hr => ?_, fun a b r r' hr => ?_⟩
  · exact absurd ha not_mem_nil
  · exact absurd hr (by simp [init])
  · exact absurd hr (by simp [init])

variable {s : SapState} {slot : Slot} {r : SapSocketRequest} {t a : ℕ}

lemma Inv.slot_eq (h : s.Inv) {slot' : Slot}
    (ha : a ∈ s.pendingResponseQueue slot) (ha' : a ∈ s.pendingResponseQueue slot') : slot = slot' := by
  rcases h.live slot a ha with ⟨r, _, hr, _, hid, _⟩
  rcases h.live slot' a ha' with ⟨r', _, hr', _, hid', _⟩
  cases hr.symm.trans hr'
  have hslot := congrArg getSocketById (hid.symm.trans hid')
  rw [getSocketById_id, getSocketById_id] at hslot
  exact Option.some.inj hslot

lemma requestAt_of_some (hr : s.request a = some r) (stale : Stale) : s.requestAt stale a = r := by
  simp [requestAt, hr]

lemma headerAt_of_some {hdr : MsgHeader} (hhdr : s.header a = some hdr)
    (stale : Stale) : s.headerAt stale a = hdr := by
  simp [headerAt, hhdr]

lemma Inv.request_eq_none (h : s.Inv) (ht : ∀ slot, t ∉ s.pendingResponseQueue slot) : s.request t = none := by
  cases hr : s.request t with
  | none => rfl
  | some r =>
    rcases h.queued t r hr with ⟨slot, hmem⟩
    exact absurd hmem (ht slot)

/-- Other entries keep their contents when a request and its header are released. -/
lemma Inv.entry_release (h : s.Inv) (hr : s.request t = some r) (ha : a ∈ s.pendingResponseQueue slot)
    (hne : a ≠ t) (queue : Slot → List ℕ) :
    entry ⟨queue, update s.request t none, update s.header r.curr none⟩ a
      = s.entry a := by
  rcases h.live slot a ha with ⟨r', _, hr', _⟩
  have hcurr : r'.curr ≠ r.curr := fun heq => hne (h.owner a t r' r hr' hr heq)
  simp [entry, update_of_ne hne, hr', update_of_ne hcurr]

lemma Inv.onRequestComplete_eq (h : s.Inv) (ht : t ∈ s.pendingResponseQueue slot) (hr : s.request t = some r)
    (stale : Stale)
    (hfind : (s.pendingResponseQueue slot).find? (s.Matches stale (s.headerAt stale r.curr)) = some t) :
    s.onRequestComplete t stale
      = ⟨update s.pendingResponseQueue slot ((s.pendingResponseQueue slot).erase t),
        update s.request t none, update s.header r.curr none⟩ := by
  have hid : r.socketId = slot.id := by
    rcases h.live slot t ht with ⟨r', _, hr', _, hid, _⟩
    cases hr.symm.trans hr'
    exact hid
  simp only [onRequestComplete, requestAt_of_some hr, hid, getSocketById_id, checkAndDequeue, hfind,
    eraseP_eq_erase hfind]

lemma Inv.removes (h : s.Inv) (ht : t ∈ s.pendingResponseQueue slot) (hr : s.request t = some r) :
    s.Removes t slot
      ⟨update s.pendingResponseQueue slot ((s.pendingResponseQueue slot).erase t), update s.request t none,
        update s.header r.curr none⟩ := by
  refine ⟨?_, fun slot' hslot => ?_, rfl⟩
  · simp only [entries, update_self, List.filter_map]
    rw [(h.nodup slot).erase_eq_filter]
    have hfilter : ((fun e : ℕ × Option SapSocketRequest × Option MsgHeader => decide (e.1 ≠ t)) ∘ s.entry)
        = fun a => a != t := by
      funext a
      by_cases ha : a = t <;> simp [entry, ha]
    rw [hfilter]
    refine map_congr_left fun a ha => ?_
    rcases mem_filter.mp ha with ⟨hmem, hne⟩
    exact h.entry_release hr hmem (by simpa using hne) _
  · simp only [entries, update_of_ne hslot]
    refine map_congr_left fun a ha => h.entry_release hr ha ?_ _
    rintro rfl
    exact hslot (h.slot_eq ha ht)

/-! ## Completions -/

lemma Inv.matches_self (h : s.Inv) (ht : t ∈ s.pendingResponseQueue slot) (stale : Stale) :
    s.Matches stale (s.headerAt stale (s.requestAt stale t).curr) t = true := by
  rcases h.live slot t ht with ⟨r, hdr, hr, hhdr, _, htoken⟩
  simp [Matches, requestAt_of_some hr, headerAt_of_some hhdr, htoken]

/-- **A request in the queue.** -/
lemma Inv.exact_iff_of_mem (h : s.Inv) (ht : t ∈ s.pendingResponseQueue slot) (stale : Stale) :
    s.Exact (.onRequestComplete t stale) ↔ s.Unambiguous (.onRequestComplete t stale) := by
  rcases h.live slot t ht with ⟨r, hdr, hr, hhdr, hid, _⟩
  have hself := h.matches_self ht stale
  have hcond : s.Unambiguous (.onRequestComplete t stale)
      ↔ (s.pendingResponseQueue slot).find? (s.Matches stale (s.headerAt stale r.curr)) = some t := by
    rw [requestAt_of_some hr] at hself
    rw [find?_eq_some_iff_takeWhile ht hself]
    simp only [Unambiguous, requestAt_of_some hr, hid, getSocketById_id]
    constructor
    · exact fun hun => hun.1 slot rfl
    · intro hun
      refine ⟨fun slot' hslot => ?_, fun hnone => absurd ht (hnone slot)⟩
      cases hslot
      exact hun
  rw [hcond]
  simp only [Exact, step, mem_def, Option.some.injEq]
  constructor
  · intro hexact
    have hreleased := ((hexact _ rfl).1 slot ht).released
    rw [requestAt_of_some hr] at hself
    rcases hfind : (s.pendingResponseQueue slot).find? (s.Matches stale (s.headerAt stale r.curr)) with
      _ | a
    · exact absurd hself (find?_eq_none.mp hfind t ht)
    · -- another request would be released in its place
      by_contra hne
      have hat : t ≠ a := fun heq => hne (heq ▸ rfl)
      simp only [onRequestComplete, requestAt_of_some hr, hid, getSocketById_id, checkAndDequeue, hfind] at hreleased
      have := congrFun hreleased t
      rw [update_of_ne hat, update_self, hr] at this
      cases this
  · rintro hfind s' rfl
    rw [h.onRequestComplete_eq ht hr stale hfind]
    refine ⟨fun slot' ht' => ?_, fun hnone => absurd ht (hnone slot)⟩
    rcases h.slot_eq ht ht' with rfl
    exact h.removes ht hr

lemma header_onRequestComplete (s : SapState) (t : ℕ) (stale : Stale) :
    (s.onRequestComplete t stale).header
      = update s.header (s.requestAt stale t).curr none := by
  simp only [onRequestComplete, checkAndDequeue]
  split
  · rfl
  · split <;> rfl

lemma onRequestComplete_of_find_none {stale : Stale} (hnone : s.request t = none)
    (hfind : ∀ slot ∈ getSocketById (s.requestAt stale t).socketId, ∀ a ∈ s.pendingResponseQueue slot,
      ¬ s.Matches stale (s.headerAt stale (s.requestAt stale t).curr) a = true) :
    s.onRequestComplete t stale
      = { s with header := update s.header (s.requestAt stale t).curr none } := by
  simp only [onRequestComplete]
  cases hslot : getSocketById (s.requestAt stale t).socketId with
  | none =>
    have hsame : update s.request t none = s.request := by
      rw [← hnone, update_eq_self]
    simp only [hsame]
  | some slot =>
    have hnone' := find?_eq_none.mpr (hfind slot hslot)
    simp only [checkAndDequeue, hnone']

lemma entries_eq_iff {s' : SapState} :
    s'.entries = s.entries ↔ s'.pendingResponseQueue = s.pendingResponseQueue
      ∧ ∀ slot, ∀ a ∈ s.pendingResponseQueue slot, s'.entry a = s.entry a := by
  constructor
  · intro heq
    have hqueue : s'.pendingResponseQueue = s.pendingResponseQueue := by
      funext slot
      have hmap := congrArg (List.map Prod.fst) (congrFun heq slot)
      simp only [entries, List.map_map] at hmap
      have hid : ∀ u : SapState, Prod.fst ∘ u.entry = id := fun u => rfl
      simpa [hid] using hmap
    refine ⟨hqueue, fun slot => ?_⟩
    have hentries := congrFun heq slot
    simp only [entries, hqueue] at hentries
    exact map_inj_left.mp hentries
  · rintro ⟨hqueue, hentry⟩
    funext slot
    simp only [entries, hqueue]
    exact map_inj_left.mpr (hentry slot)

/-- **A request that is in no queue.** -/
lemma Inv.exact_iff_of_notMem (h : s.Inv) (ht : ∀ slot, t ∉ s.pendingResponseQueue slot) (stale : Stale) :
    s.Exact (.onRequestComplete t stale) ↔ s.Unambiguous (.onRequestComplete t stale) := by
  have hnone := h.request_eq_none ht
  have hwhole : ∀ slot, (s.pendingResponseQueue slot).takeWhile (· ≠ t) = s.pendingResponseQueue slot :=
    fun slot => takeWhile_ne_of_notMem (ht slot)
  have hexact : s.Exact (.onRequestComplete t stale)
      ↔ (s.onRequestComplete t stale).entries = s.entries := by
    simp only [Exact, step, mem_def, Option.some.injEq]
    constructor
    · exact fun hex => (hex _ rfl).2 ht
    · rintro heq s' rfl
      exact ⟨fun slot hmem => absurd hmem (ht slot), fun _ => heq⟩
  rw [hexact, entries_eq_iff]
  simp only [Unambiguous, hwhole]
  constructor
  · rintro ⟨hqueue, hentry⟩
    refine ⟨fun slot hslot a ha hmatch => ?_, fun _ slot a ha r hr hcurr => ?_⟩
    · -- an entry would be taken out
      have hqueue' := congrFun hqueue slot
      have hslot' : getSocketById (s.requestAt stale t).socketId = some slot := hslot
      simp only [onRequestComplete, hslot', checkAndDequeue] at hqueue'
      split at hqueue'
      · next hfind => exact find?_eq_none.mp hfind a ha hmatch
      · next b hfind =>
        have hlen := congrArg List.length hqueue'
        simp only [update_self] at hlen
        rw [length_eraseP_of_mem ha hmatch] at hlen
        have hpos := length_pos_of_mem ha
        omega
    · -- the header of an entry would be released
      rcases h.live slot a ha with ⟨r', hdr, hr', hhdr, _⟩
      cases hr'.symm.trans hr
      have hsecond := congrArg Prod.snd (hentry slot a ha)
      simp only [entry, Prod.mk.injEq, header_onRequestComplete] at hsecond
      rw [hsecond.1, hr'] at hsecond
      simp only [bind_some, hcurr, update_self] at hsecond
      rw [hcurr] at hhdr
      exact absurd (hsecond.2.trans hhdr) (by simp)
  · rintro ⟨hnomatch, hcurr⟩
    rw [onRequestComplete_of_find_none hnone hnomatch]
    refine ⟨rfl, fun slot a ha => ?_⟩
    rcases h.live slot a ha with ⟨r, _, hr, _⟩
    simp [entry, hr, update_of_ne (hcurr ht slot a ha r hr)]

lemma Inv.exact_iff (h : s.Inv) (act : SapAct) : s.Exact act ↔ s.Unambiguous act := by
  cases act with
  | dispatchRequest slot req hdr alloc => exact Iff.rfl
  | onRequestComplete t stale =>
    by_cases ht : ∃ slot, t ∈ s.pendingResponseQueue slot
    · rcases ht with ⟨slot, ht⟩
      exact h.exact_iff_of_mem ht stale
    · exact h.exact_iff_of_notMem (not_exists.mp ht) stale

/-! ## The blocks stay those of the queue -/

lemma Inv.dispatchRequest (h : s.Inv) (slot : Slot) {req : ℕ} (hdr : MsgHeader)
    (hreq : s.header req = none) (ha : s.request a = none) : (s.dispatchRequest slot req hdr (some a)).Inv := by
  have hfresh : ∀ slot', a ∉ s.pendingResponseQueue slot' := by
    intro slot' hmem
    rcases h.live slot' a hmem with ⟨r, _, hr, _⟩
    exact absurd (ha.symm.trans hr) (by simp)
  have hcurr : ∀ b r, s.request b = some r → r.curr ≠ req := by
    rintro b r hr rfl
    rcases h.queued b r hr with ⟨slot', hmem⟩
    rcases h.live slot' b hmem with ⟨r', hdr', hr', hhdr, _⟩
    cases hr.symm.trans hr'
    exact absurd (hreq.symm.trans hhdr) (by simp)
  have hne : ∀ {b r}, s.request b = some r → b ≠ a := by
    rintro b r hr rfl
    exact absurd (ha.symm.trans hr) (by simp)
  simp only [SapState.dispatchRequest]
  constructor
  case nodup =>
    exact nodup_update h.nodup (nodup_cons.mpr ⟨hfresh slot, h.nodup slot⟩)
  case live =>
    intro slot' b hb
    rcases mem_update_cons_iff.mp hb with ⟨rfl, rfl⟩ | hb
    · exact ⟨⟨hdr.token, req, slot'.id⟩, hdr, by simp, by simp, rfl, rfl⟩
    · rcases h.live slot' b hb with ⟨r, hdr', hr, hhdr, hrest⟩
      refine ⟨r, hdr', ?_, ?_, hrest⟩
      · exact update_eq_some_iff.mpr (.inr ⟨hne hr, hr⟩)
      · exact update_eq_some_iff.mpr (.inr ⟨hcurr b r hr, hhdr⟩)
  case queued =>
    intro b r hr
    rcases update_eq_some_iff.mp hr with ⟨rfl, -⟩ | ⟨-, hr⟩
    · exact ⟨slot, mem_update_cons_iff.mpr (.inl ⟨rfl, rfl⟩)⟩
    · rcases h.queued b r hr with ⟨slot', hmem⟩
      exact ⟨slot', mem_update_cons_iff.mpr (.inr hmem)⟩
  case owner =>
    intro b c r r' hr hr' heq
    rcases update_eq_some_iff.mp hr with ⟨rfl, hnew⟩ | ⟨-, hold⟩
    · rcases update_eq_some_iff.mp hr' with ⟨rfl, -⟩ | ⟨-, hold'⟩
      · rfl
      · cases hnew
        exact absurd heq.symm (hcurr c r' hold')
    · rcases update_eq_some_iff.mp hr' with ⟨rfl, hnew⟩ | ⟨-, hold'⟩
      · cases hnew
        exact absurd heq (hcurr b r hold)
      · exact h.owner b c r r' hold hold' heq

lemma Inv.release (h : s.Inv) (ht : t ∈ s.pendingResponseQueue slot) (hr : s.request t = some r) :
    Inv ⟨update s.pendingResponseQueue slot ((s.pendingResponseQueue slot).erase t),
      update s.request t none, update s.header r.curr none⟩ := by
  have hmem : ∀ {slot' b}, b ∈ update s.pendingResponseQueue slot
      ((s.pendingResponseQueue slot).erase t) slot' ↔ b ≠ t ∧ b ∈ s.pendingResponseQueue slot' :=
    mem_update_erase_iff (h.nodup slot) fun slot' hb => h.slot_eq hb ht
  have hlive : ∀ {b r'}, update s.request t none b = some r' →
      b ≠ t ∧ s.request b = some r' := by
    intro b r' hr'
    rcases update_eq_some_iff.mp hr' with ⟨-, hnone⟩ | hold
    · cases hnone
    · exact hold
  constructor
  case nodup =>
    exact nodup_update h.nodup ((h.nodup slot).erase t)
  case live =>
    intro slot' b hb
    rcases hmem.mp hb with ⟨hne, hb⟩
    rcases h.live slot' b hb with ⟨r', hdr', hr', hhdr, hrest⟩
    refine ⟨r', hdr', ?_, ?_, hrest⟩
    · exact update_eq_some_iff.mpr (.inr ⟨hne, hr'⟩)
    · refine update_eq_some_iff.mpr (.inr ⟨fun heq => hne ?_, hhdr⟩)
      exact h.owner b t r' r hr' hr heq
  case queued =>
    intro b r' hr'
    rcases hlive hr' with ⟨hne, hr'⟩
    rcases h.queued b r' hr' with ⟨slot', hb⟩
    exact ⟨slot', hmem.mpr ⟨hne, hb⟩⟩
  case owner =>
    intro b c r₁ r₂ hr₁ hr₂
    exact h.owner b c r₁ r₂ (hlive hr₁).2 (hlive hr₂).2

/-- **One step.** -/
lemma step_inv (s : SapState) (act : SapAct) (s' : SapState) (h : s.Inv) (hun : s.Unambiguous act)
    (hs' : s.step act = some s') : s'.Inv := by
  cases act with
  | dispatchRequest slot req hdr alloc =>
    obtain ⟨hguard, rfl⟩ := ite_some_none_eq_some.mp hs'
    cases alloc with
    | none => exact h
    | some a => exact h.dispatchRequest slot hdr hguard.1 (hguard.2 a rfl)
  | onRequestComplete t stale =>
    cases hs'
    by_cases ht : ∃ slot, t ∈ s.pendingResponseQueue slot
    · rcases ht with ⟨slot, ht⟩
      rcases h.live slot t ht with ⟨r, hdr, hr, hhdr, hid, _⟩
      have hself := h.matches_self ht stale
      have hfront := hun.1 slot (by rw [requestAt_of_some hr, hid, getSocketById_id]; rfl)
      have hfind := (find?_eq_some_iff_takeWhile ht hself).mpr hfront
      rw [requestAt_of_some hr] at hfind
      rw [h.onRequestComplete_eq ht hr stale hfind]
      exact h.release ht hr
    · have hnot := not_exists.mp ht
      have hnomatch := hun.1
      have hcurr := hun.2 hnot
      simp only [takeWhile_ne_of_notMem (hnot _)] at hnomatch
      rw [onRequestComplete_of_find_none (h.request_eq_none hnot) hnomatch]
      refine ⟨h.nodup, fun slot b hb => ?_, h.queued, h.owner⟩
      rcases h.live slot b hb with ⟨r, hdr, hr, hhdr, hrest⟩
      refine ⟨r, hdr, hr, ?_, hrest⟩
      dsimp only
      rw [update_of_ne (hcurr slot b hb r hr)]
      exact hhdr

/-- **Every completion of a run is exact iff none is ambiguous.** -/
theorem completions_exact_iff (acts : List SapAct) :
    StepsMeet step Exact init acts ↔ StepsMeet step Unambiguous init acts :=
  stepsMeet_iff step_inv (fun _ act h => h.exact_iff act) init_inv

/-- Two requests of one id and token, of which the older one is completed. -/
def collision : List SapAct :=
  [.dispatchRequest .socket1 10 ⟨1, 7⟩ (some 20), .dispatchRequest .socket1 11 ⟨1, 7⟩ (some 21),
    .onRequestComplete 20 ⟨⟨0, 0, 0⟩, ⟨0, 0⟩⟩]

/-- The newer one is released, and the older one stays in the queue with its header released. -/
theorem checkAndDequeue_releases_other :
    (∃ s, run step init collision = some s
      ∧ s.entries .socket1 = [(20, some ⟨7, 10, 0⟩, none)] ∧ s.request 21 = none)
    ∧ ¬ StepsMeet step Exact init collision := by
  refine ⟨⟨_, rfl, rfl, rfl⟩, fun h => ?_⟩
  have hexact := ((h.2 _ rfl).2 _ rfl).1 _ rfl
  have hreleased := (hexact.1 .socket1 (by decide)).released
  exact absurd (congrFun hreleased 21) (by decide)

end SapState

end Hal
