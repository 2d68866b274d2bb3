import Mathlib.Data.Int.Basic
import DeviceHal.Core.Machine
import DeviceHal.Core.Keyed

/-!
# The command and callback tables of the WiFi HAL

A command that waits for events is an object on the heap.  It stands in a table of commands, under the request
id its caller chose, and in a table of event callbacks, under each event it handles.  Entries are removed
by key: the first one under the id, or under the event, goes, whosever it is.  Then the object is
released.

Each call of the HAL is one step, and so is an RTT event.  `start` of a class of commands is a list of what it
asks of the driver and what it registers, in order (`CmdKind.start`); the driver may refuse anything.

**The defect.**  Request ids may be repeated, and two classes handle the same event.  The entry that is
removed is then another command's, and the command's own is left behind when it is released.

* `WifiState.effect` — what a call does to the tables, in one form for all calls.
* **`tables_ok_iff`** — the tables are right along a run **iff** under every key that a call looks up the first
  entry, if there is one, is of a command the call is about.
-/

namespace Hal

open List

/-- `WIFI_VENDOR_EVENT`. -/
inductive VendorEvent where
  | significantChangeResults
  | hotlistResultsFound
  | scanResultsAvailable
  | fullScanResults
  | rttComplete
  | completeScan
  | hotlistResultsLost
  | rssiMonitor
  | epnoEvent
  | anqpoHotspotMatch
deriving DecidableEq

/-- The classes of commands that are kept in the tables. -/
inductive CmdKind where
  | scan
  | fullScanResults
  | bssidHotlist
  | significantWifiChange
  | ePNO
  | anqpoConfigure
  | rtt
  | setRSSIMonitor
deriving DecidableEq

/-- What `start` does, in order: create a message, send one and unregister handlers if it is refused, or
register a handler. -/
inductive StartOp where
  | create
  | request (undo : List VendorEvent)
  | register (event : VendorEvent)

namespace CmdKind

def start : CmdKind → List StartOp
  | scan =>
    [.create, .request [], .create, .request [], .create, .register .scanResultsAvailable,
      .register .completeScan, .register .fullScanResults,
      .request [.completeScan, .scanResultsAvailable, .fullScanResults]]
  | fullScanResults => [.create, .register .fullScanResults, .request [.fullScanResults]]
  | bssidHotlist =>
    -- the handlers are unregistered also when the first request is refused
    [.create, .request [.hotlistResultsFound, .hotlistResultsLost], .create,
      .register .hotlistResultsFound, .register .hotlistResultsLost,
      .request [.hotlistResultsFound, .hotlistResultsLost]]
  | significantWifiChange =>
    [.create, .request [], .create, .register .significantChangeResults,
      .request [.significantChangeResults]]
  | ePNO => [.create, .request [.epnoEvent], .register .epnoEvent]
  | anqpoConfigure => [.create, .register .anqpoHotspotMatch, .request [.anqpoHotspotMatch]]
  | rtt => [.create, .request [], .register .rttComplete]
  | setRSSIMonitor => [.create, .request [], .register .rssiMonitor]

/-- The handlers that `cancel` unregisters, whatever the driver says. -/
def cancel : CmdKind → List VendorEvent
  | scan => [.completeScan, .scanResultsAvailable, .fullScanResults]
  | fullScanResults => [.fullScanResults]
  | bssidHotlist => [.hotlistResultsFound, .hotlistResultsLost]
  | significantWifiChange => [.significantChangeResults]
  | ePNO => [.epnoEvent]
  | anqpoConfigure => [.anqpoHotspotMatch]
  | rtt => [.rttComplete]
  | setRSSIMonitor => [.rssiMonitor]

/-- The stop calls that take the id -1 to cancel a command made for the purpose. -/
def standsIn : CmdKind → Bool
  | scan => true
  | fullScanResults => true
  | ePNO => true
  | setRSSIMonitor => true
  | _ => false

end CmdKind

/-- What `start` registers, and, if it fails, what it then unregisters.  The outcomes are those of the messages
that are created and sent, in order. -/
def play : List StartOp → List Bool → List VendorEvent × Option (List VendorEvent)
  | [], _ => ([], none)
  | .create :: ops, outcomes =>
    if outcomes.head? = some false then ([], some []) else play ops outcomes.tail
  | .request undo :: ops, outcomes =>
    if outcomes.head? = some false then ([], some undo) else play ops outcomes.tail
  | .register event :: ops, outcomes =>
    let (registered, failed) := play ops outcomes
    (event :: registered, failed)

/-- A `WifiCommand`.  The number tells objects apart. -/
structure WifiCommand where
  object : ℕ
  id : ℤ
  kind : CmdKind
deriving DecidableEq

structure CbInfo where
  vendorSubcmd : VendorEvent
  cbArg : WifiCommand
deriving DecidableEq

structure CmdInfo where
  id : ℤ
  cmd : WifiCommand
deriving DecidableEq

/-- `DEFAULT_EVENT_CB_SIZE` and `DEFAULT_CMD_SIZE`. -/
def tableSize : ℕ := 64

/-- The tables, and the commands that were released.  `stray` is a ghost: a call has removed an entry of a
command it was not about. -/
structure WifiState where
  eventCb : List CbInfo
  cmd : List CmdInfo
  released : List WifiCommand
  created : ℕ
  stray : Bool

/-- The start calls, one for each class, and the stop calls; `wifi_rtt_range_cancel`; and an RTT event. -/
inductive WifiAct where
  | start (kind : CmdKind) (id : ℤ) (outcomes : List Bool)
  | stop (kind : CmdKind) (id : ℤ)
  | rttRangeCancel (id : ℤ)
  | rttEvent (completed : Bool)

namespace WifiState

def init : WifiState := ⟨[], [], [], 0, false⟩

/-- `wifi_register_vendor_handler`; the result is not looked at. -/
def registerVendorHandler (s : WifiState) (c : WifiCommand) (event : VendorEvent) : WifiState :=
  if s.eventCb.length < tableSize then { s with eventCb := s.eventCb ++ [⟨event, c⟩] } else s

/-- `wifi_unregister_vendor_handler`. -/
def unregisterVendorHandler (s : WifiState) (event : VendorEvent) : WifiState :=
  { s with eventCb := s.eventCb.eraseP fun e => e.vendorSubcmd = event }

def unregisterCmd (s : WifiState) (id : ℤ) : WifiState :=
  { s with cmd := s.cmd.eraseP fun e => e.id = id }

def releaseRef (s : WifiState) (c : WifiCommand) : WifiState := { s with released := s.released ++ [c] }

def getCmd (s : WifiState) (id : ℤ) : Option CmdInfo := s.cmd.find? fun e => e.id = id

def handlerOf (s : WifiState) (event : VendorEvent) : Option CbInfo :=
  s.eventCb.find? fun e => e.vendorSubcmd = event

/-- The command that the next start call makes. -/
def newCommand (s : WifiState) (kind : CmdKind) (id : ℤ) : WifiCommand := ⟨s.created, id, kind⟩

/-- `wifi_start_gscan`, `wifi_rtt_range_request` and so on. -/
def start (s : WifiState) (kind : CmdKind) (id : ℤ) (outcomes : List Bool) : WifiState :=
  let c := s.newCommand kind id
  let s := { s with created := s.created + 1 }
  if s.cmd.length < tableSize then
    let (registered, failed) := play kind.start outcomes
    let s := { s with cmd := s.cmd ++ [⟨id, c⟩] }
    let s := registered.foldl (fun s event => s.registerVendorHandler c event) s
    match failed with
    | none => s
    | some undo => ((undo.foldl unregisterVendorHandler s).unregisterCmd id).releaseRef c
  else s.releaseRef c

def cancel (s : WifiState) (kind : CmdKind) : WifiState := kind.cancel.foldl unregisterVendorHandler s

/-- `wifi_cancel_cmd`. -/
def cancelCmd (s : WifiState) (id : ℤ) : WifiState :=
  match s.getCmd id with
  | none => s
  | some e => ((s.unregisterCmd id).cancel e.cmd.kind).releaseRef e.cmd

/-- `RttCommand::handleEvent`, called for the first entry under the event. -/
def handleRttEvent (s : WifiState) (completed : Bool) : WifiState :=
  match s.handlerOf .rttComplete with
  | none => s
  | some e =>
    if completed then
      let s := s.unregisterVendorHandler .rttComplete
      match s.getCmd e.cbArg.id with
      | none => s
      | some d => (s.unregisterCmd e.cbArg.id).releaseRef d.cmd
    else s

/-- A call.  A command that stands in for another is released at the end of the call, and is in no table. -/
def call (s : WifiState) : WifiAct → WifiState
  | .start kind id outcomes => s.start kind id outcomes
  | .stop kind id => if id = -1 ∧ kind.standsIn = true then s.cancel kind else s.cancelCmd id
  | .rttRangeCancel _ => s.unregisterVendorHandler .rttComplete
  | .rttEvent completed => s.handleRttEvent completed

/-- A stop call is for all commands of its class if its id is -1 and the class takes that, and otherwise for the one it
finds under the id. -/
def IsFor (s : WifiState) (kind : CmdKind) (id : ℤ) (c : WifiCommand) : Prop :=
  if id = -1 ∧ kind.standsIn = true then c.kind = kind else (s.getCmd id).map CmdInfo.cmd = some c

instance (s : WifiState) (kind : CmdKind) (id : ℤ) : DecidablePred (s.IsFor kind id) :=
  fun _ => inferInstanceAs (Decidable (if id = -1 ∧ kind.standsIn = true then _ else _))

/-- Which commands a call is about: the one it starts or hears from, or those that the caller named. -/
def About (s : WifiState) (c : WifiCommand) : WifiAct → Prop
  | .start kind id _ => c = s.newCommand kind id
  | .stop kind id => s.IsFor kind id c
  | .rttRangeCancel id => c.kind = .rtt ∧ c.id = id
  | .rttEvent _ => (s.handlerOf .rttComplete).map CbInfo.cbArg = some c

instance (s : WifiState) (c : WifiCommand) : DecidablePred (s.About c)
  | .start _ _ _ => inferInstanceAs (Decidable (_ = _))
  | .stop kind id => inferInstanceAs (Decidable (s.IsFor kind id c))
  | .rttRangeCancel _ => inferInstanceAs (Decidable (_ ∧ _))
  | .rttEvent _ => inferInstanceAs (Decidable (_ = _))

/-- What a call has removed is of the commands it is about. -/
def OnlyOwn (s : WifiState) (act : WifiAct) (s' : WifiState) : Prop :=
  (∀ e ∈ s.eventCb, e ∉ s'.eventCb → s.About e.cbArg act) ∧ ∀ e ∈ s.cmd, e ∉ s'.cmd → s.About e.cmd act

instance (s : WifiState) (act : WifiAct) (s' : WifiState) : Decidable (s.OnlyOwn act s') :=
  inferInstanceAs (Decidable ((∀ e ∈ _, _ → _) ∧ ∀ e ∈ _, _ → _))

def step (s : WifiState) (act : WifiAct) : Option WifiState :=
  some { s.call act with stray := s.stray || !decide (s.OnlyOwn act (s.call act)) }

/-- The entries are of commands that are not released, and no call has removed another's. -/
structure Ok (s : WifiState) : Prop where
  event_live : ∀ e ∈ s.eventCb, e.cbArg ∉ s.released
  cmd_live : ∀ e ∈ s.cmd, e.cmd ∉ s.released
  own : s.stray = false

/-! ## What a call does to the tables -/

/-- What is added to the tables, under which keys entries are then removed, and what is released. -/
structure Effect where
  registers : List CbInfo
  undoes : List VendorEvent
  adds : List CmdInfo
  drops : List ℤ
  releases : List WifiCommand
  creates : ℕ

def handlers (s : WifiState) (c : WifiCommand) (events : List VendorEvent) : List CbInfo :=
  (events.map fun event => ⟨event, c⟩).take (tableSize - s.eventCb.length)

def effect (s : WifiState) : WifiAct → Effect
  | .start kind id outcomes =>
    let c := s.newCommand kind id
    if s.cmd.length < tableSize then
      match play kind.start outcomes with
      | (registered, none) => ⟨s.handlers c registered, [], [⟨id, c⟩], [], [], 1⟩
      | (registered, some undo) => ⟨s.handlers c registered, undo, [⟨id, c⟩], [id], [c], 1⟩
    else ⟨[], [], [], [], [c], 1⟩
  | .stop kind id =>
    if id = -1 ∧ kind.standsIn = true then ⟨[], kind.cancel, [], [], [], 0⟩
    else
      match s.getCmd id with
      | none => ⟨[], [], [], [], [], 0⟩
      | some e => ⟨[], e.cmd.kind.cancel, [], [id], [e.cmd], 0⟩
  | .rttRangeCancel _ => ⟨[], [.rttComplete], [], [], [], 0⟩
  | .rttEvent completed =>
    match s.handlerOf .rttComplete with
    | none => ⟨[], [], [], [], [], 0⟩
    | some e =>
      if completed then
        ⟨[], [.rttComplete], [], [e.cbArg.id], ((s.getCmd e.cbArg.id).map CmdInfo.cmd).toList, 0⟩
      else ⟨[], [], [], [], [], 0⟩

/-- Under every key that the call looks up the first entry, if there is one, is of a command the call is
about. -/
def NoClash (s : WifiState) (act : WifiAct) : Prop :=
  (∀ event ∈ (s.effect act).undoes, ∀ e ∈ s.handlerOf event, s.About e.cbArg act) ∧
    ∀ id ∈ (s.effect act).drops, ∀ e ∈ s.getCmd id, s.About e.cmd act

instance (s : WifiState) (act : WifiAct) : Decidable (s.NoClash act) :=
  inferInstanceAs (Decidable ((∀ event ∈ _, ∀ e ∈ _, _) ∧ ∀ id ∈ _, ∀ e ∈ _, _))

def apply (s : WifiState) (eff : Effect) : WifiState where
  eventCb := eraseKeys CbInfo.vendorSubcmd eff.undoes (s.eventCb ++ eff.registers)
  cmd := eraseKeys CmdInfo.id eff.drops (s.cmd ++ eff.adds)
  released := s.released ++ eff.releases
  created := s.created + eff.creates
  stray := s.stray

lemma foldl_registerVendorHandler (c : WifiCommand) (events : List VendorEvent) (s : WifiState) :
    events.foldl (fun s event => s.registerVendorHandler c event) s
      = { s with eventCb := s.eventCb ++ s.handlers c events } := by
  induction events generalizing s with
  | nil => simp [handlers]
  | cons event events ih =>
    rw [foldl_cons, ih, registerVendorHandler]
    split_ifs with hroom
    · have hsize : tableSize - s.eventCb.length = tableSize - (s.eventCb.length + 1) + 1 := by omega
      simp [handlers, hsize]
    · have hsize : tableSize - s.eventCb.length = 0 := by omega
      simp [handlers, hsize]

lemma foldl_unregisterVendorHandler (events : List VendorEvent) (s : WifiState) :
    events.foldl unregisterVendorHandler s
      = { s with eventCb := eraseKeys CbInfo.vendorSubcmd events s.eventCb } := by
  induction events generalizing s with
  | nil => rfl
  | cons event events ih =>
    rw [foldl_cons, ih]
    rfl

lemma start_eq (s : WifiState) (kind : CmdKind) (id : ℤ) (outcomes : List Bool) :
    s.start kind id outcomes = s.apply (s.effect (.start kind id outcomes)) := by
  simp only [start, effect]
  split_ifs with hroom
  · rcases play kind.start outcomes with ⟨registered, failed⟩
    cases failed with
    | none =>
      simp only [foldl_registerVendorHandler]
      simp [apply, eraseKeys, handlers]
    | some undo =>
      simp only [foldl_registerVendorHandler, foldl_unregisterVendorHandler]
      simp [apply, eraseKeys, handlers, unregisterCmd, releaseRef]
  · simp [apply, eraseKeys, releaseRef]

/-- **Every call has the effect it is said to have.** -/
lemma call_eq (s : WifiState) (act : WifiAct) : s.call act = s.apply (s.effect act) := by
  cases act with
  | start kind id outcomes => exact start_eq s kind id outcomes
  | stop kind id =>
    simp only [call, effect, cancelCmd, cancel, foldl_unregisterVendorHandler]
    split_ifs
    · simp [apply, eraseKeys]
    · cases s.getCmd id with
      | none => simp [apply, eraseKeys]
      | some e => simp [apply, eraseKeys, unregisterCmd, releaseRef]
  | rttRangeCancel id => simp [call, effect, apply, eraseKeys, unregisterVendorHandler]
  | rttEvent completed =>
    simp only [call, effect, handleRttEvent]
    cases s.handlerOf .rttComplete with
    | none => simp [apply, eraseKeys]
    | some e =>
      cases completed with
      | false => simp [apply, eraseKeys]
      | true =>
        have hsame : (s.unregisterVendorHandler .rttComplete).getCmd e.cbArg.id
            = s.getCmd e.cbArg.id := rfl
        simp only [if_true, hsame]
        cases hget : s.getCmd e.cbArg.id with
        | none =>
          have hnone := eraseP_of_forall_not (find?_eq_none.mp hget)
          simp [apply, eraseKeys, unregisterVendorHandler, hnone]
        | some d => simp [apply, eraseKeys, unregisterVendorHandler, unregisterCmd, releaseRef]

/-! ## What `start` registers -/

/-- With `registered` so far: a handler is registered once, and `cancel` unregisters it; where a request fails
the handlers registered so far are unregistered, and nothing is registered yet where a message cannot be
created. -/
def Disciplined (cancel : List VendorEvent) : List VendorEvent → List StartOp → Prop
  | _, [] => True
  | registered, .create :: ops => registered = [] ∧ Disciplined cancel registered ops
  | registered, .request undo :: ops =>
    undo.Nodup ∧ (∀ event ∈ registered, event ∈ undo) ∧ Disciplined cancel registered ops
  | registered, .register event :: ops =>
    event ∈ cancel ∧ event ∉ registered ∧ Disciplined cancel (event :: registered) ops

lemma disciplined_start (kind : CmdKind) : Disciplined kind.cancel [] kind.start := by
  cases kind <;> simp [Disciplined, CmdKind.cancel, CmdKind.start]

structure Played (cancel registered : List VendorEvent)
    (result : List VendorEvent × Option (List VendorEvent)) : Prop where
  handled : ∀ event ∈ result.1, event ∈ cancel
  nodup : result.1.Nodup
  fresh : ∀ event ∈ result.1, event ∉ registered
  undo_nodup : ∀ undo ∈ result.2, undo.Nodup
  undone : ∀ undo ∈ result.2, ∀ event, event ∈ registered ∨ event ∈ result.1 → event ∈ undo

lemma Disciplined.played {cancel registered : List VendorEvent} {ops : List StartOp}
    (h : Disciplined cancel registered ops) (outcomes : List Bool) :
    Played cancel registered (play ops outcomes) := by
  induction ops generalizing registered outcomes with
  | nil => exact ⟨by simp [play], by simp [play], by simp [play], by simp [play], by simp [play]⟩
  | cons op ops ih =>
    cases op with
    | create =>
      rcases h with ⟨rfl, h⟩
      simp only [play]
      split_ifs
      · exact ⟨by simp, by simp, by simp, by simp, by simp⟩
      · exact ih h outcomes.tail
    | request undo =>
      rcases h with ⟨hnodup, hundo, h⟩
      simp only [play]
      split_ifs
      · exact ⟨by simp, by simp, by simp, by simpa using hnodup, by simpa using hundo⟩
      · exact ih h outcomes.tail
    | register event =>
      rcases h with ⟨hcancel, hfresh, h⟩
      have hrest := ih h outcomes
      refine ⟨?_, ?_, ?_, hrest.undo_nodup, fun undo hundo e he => hrest.undone undo hundo e ?_⟩
      · exact forall_mem_cons.mpr ⟨hcancel, hrest.handled⟩
      · refine nodup_cons.mpr ⟨fun hmem => ?_, hrest.nodup⟩
        exact hrest.fresh event hmem mem_cons_self
      · refine forall_mem_cons.mpr ⟨hfresh, fun e he hmem => ?_⟩
        exact hrest.fresh e he (mem_cons_of_mem event hmem)
      · rcases he with he | he
        · exact .inl (mem_cons_of_mem event he)
        · rcases mem_cons.mp he with rfl | he
          · exact .inl mem_cons_self
          · exact .inr he

lemma played_start (kind : CmdKind) (outcomes : List Bool) :
    Played kind.cancel [] (play kind.start outcomes) := (disciplined_start kind).played outcomes

lemma cancel_nodup (kind : CmdKind) : kind.cancel.Nodup := by
  cases kind <;> decide

/-! ## What is right about every effect -/

/-- Only entries of the command the call makes are added, and no key is looked up twice. -/
structure Effect.Regular (s : WifiState) (eff : Effect) : Prop where
  registers_nodup : eff.registers.Nodup
  adds_nodup : eff.adds.Nodup
  undoes_nodup : eff.undoes.Nodup
  drops_nodup : eff.drops.Nodup
  registers_new : ∀ e ∈ eff.registers, e.cbArg.object = s.created ∧ eff.creates = 1
  adds_new : ∀ e ∈ eff.adds, e.cmd.object = s.created ∧ eff.creates = 1
  handled : ∀ e ∈ eff.registers, e.vendorSubcmd ∈ e.cbArg.kind.cancel
  ids : ∀ e ∈ eff.adds, e.id = e.cmd.id

variable {c : WifiCommand} {s : WifiState} {kind : CmdKind} {act : WifiAct}

lemma mem_handlers {events : List VendorEvent} {e : CbInfo}
    (h : e ∈ s.handlers c events) : e.vendorSubcmd ∈ events ∧ e.cbArg = c := by
  rcases mem_map.mp (mem_of_mem_take h) with ⟨event, hevent, rfl⟩
  exact ⟨hevent, rfl⟩

lemma handlers_nodup {events : List VendorEvent} (h : events.Nodup) (s : WifiState) (c : WifiCommand) :
    (s.handlers c events).Nodup := by
  have hmap : (events.map fun event => (⟨event, c⟩ : CbInfo)).Nodup :=
    h.map fun event event' heq => (CbInfo.mk.inj heq).1
  exact hmap.sublist (take_sublist _ _)

lemma regular_of_removal {undoes : List VendorEvent} {drops : List ℤ}
    (hundoes : undoes.Nodup) (hdrops : drops.Nodup) (releases : List WifiCommand) (creates : ℕ) :
    Effect.Regular s ⟨[], undoes, [], drops, releases, creates⟩ where
  registers_nodup := nodup_nil
  adds_nodup := nodup_nil
  undoes_nodup := hundoes
  drops_nodup := hdrops
  registers_new _ h := absurd h not_mem_nil
  adds_new _ h := absurd h not_mem_nil
  handled _ h := absurd h not_mem_nil
  ids _ h := absurd h not_mem_nil

lemma regular_of_start {registered undoes : List VendorEvent}
    {drops : List ℤ} (hnodup : registered.Nodup) (hhandled : ∀ event ∈ registered, event ∈ kind.cancel)
    (hundoes : undoes.Nodup) (hdrops : drops.Nodup) (id : ℤ) (releases : List WifiCommand) :
    Effect.Regular s ⟨s.handlers (s.newCommand kind id) registered, undoes, [⟨id, s.newCommand kind id⟩],
      drops, releases, 1⟩ where
  registers_nodup := handlers_nodup hnodup s _
  adds_nodup := nodup_singleton _
  undoes_nodup := hundoes
  drops_nodup := hdrops
  registers_new e he := by
    rw [(mem_handlers he).2]
    exact ⟨rfl, rfl⟩
  adds_new e he := by
    rw [mem_singleton.mp he]
    exact ⟨rfl, rfl⟩
  handled e he := by
    rw [(mem_handlers he).2]
    exact hhandled _ (mem_handlers he).1
  ids e he := by
    rw [mem_singleton.mp he]
    rfl

lemma effect_regular (s : WifiState) (act : WifiAct) : (s.effect act).Regular s := by
  cases act with
  | start kind id outcomes =>
    have hplay := played_start kind outcomes
    simp only [effect]
    split_ifs
    · generalize play kind.start outcomes = result at hplay ⊢
      rcases result with ⟨registered, _ | undo⟩
      · exact regular_of_start hplay.nodup hplay.handled nodup_nil nodup_nil id []
      · exact regular_of_start hplay.nodup hplay.handled (hplay.undo_nodup undo rfl)
          (nodup_singleton id) id _
    · exact regular_of_removal nodup_nil nodup_nil _ 1
  | stop kind id =>
    simp only [effect]
    split_ifs
    · exact regular_of_removal (cancel_nodup kind) nodup_nil [] 0
    · cases s.getCmd id with
      | none => exact regular_of_removal nodup_nil nodup_nil [] 0
      | some e => exact regular_of_removal (cancel_nodup e.cmd.kind) (nodup_singleton id) _ 0
  | rttRangeCancel id => exact regular_of_removal (nodup_singleton _) nodup_nil [] 0
  | rttEvent completed =>
    simp only [effect]
    cases s.handlerOf .rttComplete with
    | none => exact regular_of_removal nodup_nil nodup_nil [] 0
    | some e =>
      split_ifs
      · exact regular_of_removal (nodup_singleton _) (nodup_singleton _) _ 0
      · exact regular_of_removal nodup_nil nodup_nil [] 0

lemma about_added (s : WifiState) (act : WifiAct) :
    (∀ e ∈ (s.effect act).registers, s.About e.cbArg act) ∧
      ∀ e ∈ (s.effect act).adds, s.About e.cmd act := by
  cases act with
  | start kind id outcomes =>
    simp only [effect]
    split_ifs
    · rcases play kind.start outcomes with ⟨registered, _ | undo⟩
      all_goals exact ⟨fun e he => (mem_handlers he).2, by simp [About]⟩
    · simp
  | stop kind id =>
    simp only [effect]
    split_ifs
    · simp
    · cases s.getCmd id <;> simp
  | rttRangeCancel id => simp [effect]
  | rttEvent completed =>
    simp only [effect]
    cases s.handlerOf .rttComplete with
    | none => simp
    | some e => split_ifs <;> simp

/-! ## The invariant -/

/-- What the tables keep to while no call clashes. -/
structure Inv (s : WifiState) : Prop where
  event_nodup : s.eventCb.Nodup
  cmd_nodup : s.cmd.Nodup
  event_live : ∀ e ∈ s.eventCb, e.cbArg ∉ s.released
  cmd_live : ∀ e ∈ s.cmd, e.cmd ∉ s.released
  /-- Every object has been made. -/
  event_made : ∀ e ∈ s.eventCb, e.cbArg.object < s.created
  cmd_made : ∀ e ∈ s.cmd, e.cmd.object < s.created
  released_made : ∀ c ∈ s.released, c.object < s.created
  /-- A command is under the events it cancels, and under its id. -/
  handled : ∀ e ∈ s.eventCb, e.vendorSubcmd ∈ e.cbArg.kind.cancel
  ids : ∀ e ∈ s.cmd, e.id = e.cmd.id
  own : s.stray = false

lemma init_inv : init.Inv := by
  constructor <;> simp [init]

lemma Inv.ok (h : s.Inv) : s.Ok := ⟨h.event_live, h.cmd_live, h.own⟩

lemma Inv.added_nodup (h : s.Inv) (act : WifiAct) :
    (s.eventCb ++ (s.effect act).registers).Nodup ∧ (s.cmd ++ (s.effect act).adds).Nodup := by
  have hreg := effect_regular s act
  constructor
  · exact nodup_append_of_fresh h.event_nodup hreg.registers_nodup h.event_made
      fun e he => (hreg.registers_new e he).1
  · exact nodup_append_of_fresh h.cmd_nodup hreg.adds_nodup h.cmd_made fun e he => (hreg.adds_new e he).1

/-- What is known of a command that a call releases. -/
structure Releasable (s : WifiState) (act : WifiAct) (c : WifiCommand) : Prop where
  made : c.object < s.created + (s.effect act).creates
  only : ∀ c', s.About c' act → c' = c
  undone : ∀ e ∈ s.eventCb ++ (s.effect act).registers, e.cbArg = c →
    e.vendorSubcmd ∈ (s.effect act).undoes
  dropped : ∀ e ∈ s.cmd ++ (s.effect act).adds, e.cmd = c → e.id ∈ (s.effect act).drops

variable {id : ℤ}

lemma Inv.releasable_new (h : s.Inv) {outcomes : List Bool}
    (hcreates : (s.effect (.start kind id outcomes)).creates = 1)
    (hundone : ∀ e ∈ (s.effect (.start kind id outcomes)).registers,
      e.vendorSubcmd ∈ (s.effect (.start kind id outcomes)).undoes)
    (hdropped : ∀ e ∈ (s.effect (.start kind id outcomes)).adds,
      e.id ∈ (s.effect (.start kind id outcomes)).drops) :
    s.Releasable (.start kind id outcomes) (s.newCommand kind id) where
  made := by
    rw [hcreates]
    exact Nat.lt_succ_self s.created
  only c' hc' := hc'
  undone e he heq := by
    rcases mem_append.mp he with he | he
    · exact absurd (congrArg WifiCommand.object heq) (h.event_made e he).ne
    · exact hundone e he
  dropped e he heq := by
    rcases mem_append.mp he with he | he
    · exact absurd (congrArg WifiCommand.object heq) (h.cmd_made e he).ne
    · exact hdropped e he

lemma releasable_start (h : s.Inv) {outcomes : List Bool}
    (hc : c ∈ (s.effect (.start kind id outcomes)).releases) : s.Releasable (.start kind id outcomes) c := by
  have hplay := played_start kind outcomes
  by_cases hroom : s.cmd.length < tableSize
  · generalize hresult : play kind.start outcomes = result at hplay
    rcases result with ⟨registered, _ | undo⟩
    · simp [effect, hroom, hresult] at hc
    · have heff : s.effect (.start kind id outcomes)
          = ⟨s.handlers (s.newCommand kind id) registered, undo, [⟨id, s.newCommand kind id⟩], [id],
              [s.newCommand kind id], 1⟩ := by simp [effect, hroom, hresult]
      rw [heff] at hc
      obtain rfl := mem_singleton.mp hc
      apply h.releasable_new
      · rw [heff]
      · rw [heff]
        exact fun e he => hplay.undone undo rfl _ (.inr (mem_handlers he).1)
      · simp [heff]
  · have heff : s.effect (.start kind id outcomes) = ⟨[], [], [], [], [s.newCommand kind id], 1⟩ := by
      simp [effect, hroom]
    rw [heff] at hc
    obtain rfl := mem_singleton.mp hc
    apply h.releasable_new
    · rw [heff]
    · simp [heff]
    · simp [heff]

lemma releasable_stop (h : s.Inv)
    (hc : c ∈ (s.effect (.stop kind id)).releases) : s.Releasable (.stop kind id) c := by
  by_cases hstand : id = -1 ∧ kind.standsIn = true
  · simp [effect, hstand] at hc
  · cases hget : s.getCmd id with
    | none => simp [effect, hstand, hget] at hc
    | some e =>
      have heff : s.effect (.stop kind id) = ⟨[], e.cmd.kind.cancel, [], [id], [e.cmd], 0⟩ := by
        simp [effect, hstand, hget]
      have hmem : e ∈ s.cmd := mem_of_find?_eq_some hget
      have hid : e.id = id := by simpa using find?_some hget
      rw [heff] at hc
      obtain rfl := mem_singleton.mp hc
      refine ⟨?_, fun c' hc' => ?_, fun d hd heq => ?_, fun d hd heq => ?_⟩
      · exact Nat.lt_add_right _ (h.cmd_made e hmem)
      · rw [About, IsFor, if_neg hstand, hget] at hc'
        exact (Option.some.inj hc').symm
      · rw [heff, append_nil] at hd
        rw [heff, ← heq]
        exact h.handled d hd
      · rw [heff, append_nil] at hd
        rw [heff, mem_singleton, h.ids d hd, heq, ← h.ids e hmem, hid]

lemma cancel_rtt (h : .rttComplete ∈ kind.cancel) : kind.cancel = [.rttComplete] := by
  cases kind <;> simp_all [CmdKind.cancel]

/-- The command released is found by id; with no clash it is the one whose handler was called. -/
lemma releasable_rttEvent (h : s.Inv) {completed : Bool}
    (hclash : s.NoClash (.rttEvent completed)) (hc : c ∈ (s.effect (.rttEvent completed)).releases) :
    s.Releasable (.rttEvent completed) c := by
  cases hhandler : s.handlerOf .rttComplete with
  | none => simp [effect, hhandler] at hc
  | some e =>
    cases completed with
    | false => simp [effect, hhandler] at hc
    | true =>
      have heff : s.effect (.rttEvent true) = ⟨[], [.rttComplete], [], [e.cbArg.id],
          ((s.getCmd e.cbArg.id).map CmdInfo.cmd).toList, 0⟩ := by simp [effect, hhandler]
      rw [heff, Option.mem_toList, Option.map_eq_some_iff] at hc
      rcases hc with ⟨d, hd, rfl⟩
      have habout : s.About d.cmd (.rttEvent true) :=
        hclash.2 e.cbArg.id (by rw [heff]; exact mem_singleton_self _) d hd
      have heq : e.cbArg = d.cmd := by simpa [About, hhandler] using habout
      have hmem : e ∈ s.eventCb := mem_of_find?_eq_some hhandler
      have hevent : e.vendorSubcmd = .rttComplete := by simpa using find?_some hhandler
      have hcancel : d.cmd.kind.cancel = [.rttComplete] :=
        cancel_rtt (heq ▸ hevent ▸ h.handled e hmem)
      refine ⟨?_, fun c' hc' => ?_, fun e' he' heq' => ?_, fun d' hd' heq' => ?_⟩
      · exact Nat.lt_add_right _ (h.cmd_made d (mem_of_find?_eq_some hd))
      · rw [About, hhandler] at hc'
        exact (Option.some.inj hc').symm.trans heq
      · rw [heff, append_nil] at he'
        rw [heff, ← hcancel, ← heq']
        exact h.handled e' he'
      · rw [heff, append_nil] at hd'
        rw [heff, mem_singleton, h.ids d' hd', heq', heq]

lemma releasable (h : s.Inv) (hclash : s.NoClash act) (hc : c ∈ (s.effect act).releases) : s.Releasable act c := by
  cases act with
  | start kind id outcomes => exact releasable_start h hc
  | stop kind id => exact releasable_stop h hc
  | rttRangeCancel id => exact absurd hc not_mem_nil
  | rttEvent completed => exact releasable_rttEvent h hclash hc

/-! ## Steps and runs -/

variable {s' : WifiState}

lemma step_eq_some (h : s.step act = some s') :
    s' = { s.apply (s.effect act) with
      stray := s.stray || !decide (s.OnlyOwn act (s.apply (s.effect act))) } := by
  rw [step, call_eq] at h
  exact (Option.some.inj h).symm

lemma NoClash.firstsAre (h : s.NoClash act) :
    FirstsAre CbInfo.vendorSubcmd CbInfo.cbArg (s.About · act) (s.effect act).undoes
        (s.eventCb ++ (s.effect act).registers) ∧
      FirstsAre CmdInfo.id CmdInfo.cmd (s.About · act) (s.effect act).drops
        (s.cmd ++ (s.effect act).adds) := by
  have hadded := about_added s act
  exact ⟨FirstsAre.append h.1 hadded.1, FirstsAre.append h.2 hadded.2⟩

/-- With no clash only entries of the commands the call is about are removed. -/
lemma onlyOwn_of_noClash (h : s.Inv) (hclash : s.NoClash act) : s.OnlyOwn act (s.apply (s.effect act)) := by
  have hreg := effect_regular s act
  have hnodup := h.added_nodup act
  constructor
  · intro e he herased
    exact hclash.firstsAre.1.about_of_erased hnodup.1 hreg.undoes_nodup (mem_append_left _ he) herased
  · intro e he herased
    exact hclash.firstsAre.2.about_of_erased hnodup.2 hreg.drops_nodup (mem_append_left _ he) herased

lemma not_onlyOwn_of_clash (h : s.Inv) (hclash : ¬ s.NoClash act) : ¬ s.OnlyOwn act (s.apply (s.effect act)) := by
  have hreg := effect_regular s act
  have hnodup := h.added_nodup act
  rintro ⟨hevent, hcmd⟩
  refine hclash ⟨fun event hmem e he => ?_, fun id hmem e he => ?_⟩
  · refine hevent e (mem_of_find?_eq_some he) ?_
    exact notMem_eraseKeys_append hnodup.1 hreg.undoes_nodup hmem he
  · refine hcmd e (mem_of_find?_eq_some he) ?_
    exact notMem_eraseKeys_append hnodup.2 hreg.drops_nodup hmem he

lemma apply_live (h : s.Inv) (hclash : s.NoClash act) :
    (∀ e ∈ (s.apply (s.effect act)).eventCb, e.cbArg ∉ (s.apply (s.effect act)).released) ∧
      ∀ e ∈ (s.apply (s.effect act)).cmd, e.cmd ∉ (s.apply (s.effect act)).released := by
  have hreg := effect_regular s act
  have hnodup := h.added_nodup act
  have hreleases := fun c hc => releasable h hclash (c := c) hc
  -- a command just made has not been released before
  have hnew : ∀ c : WifiCommand, c.object = s.created → c ∉ s.released :=
    fun c heq hc => absurd heq (h.released_made c hc).ne
  constructor
  · intro e he
    refine hclash.firstsAre.1.notMem_released hnodup.1 hreg.undoes_nodup ?_ (fun d hd => ?_)
      (fun c hc => (hreleases c hc).only) (fun c hc => (hreleases c hc).undone) he
    · rintro ⟨event, c⟩ ⟨event', c'⟩ rfl rfl
      rfl
    · rcases mem_append.mp hd with hd | hd
      · exact h.event_live d hd
      · exact hnew _ (hreg.registers_new d hd).1
  · intro e he
    refine hclash.firstsAre.2.notMem_released hnodup.2 hreg.drops_nodup ?_ (fun d hd => ?_)
      (fun c hc => (hreleases c hc).only) (fun c hc => (hreleases c hc).dropped) he
    · rintro ⟨id, c⟩ ⟨id', c'⟩ rfl rfl
      rfl
    · rcases mem_append.mp hd with hd | hd
      · exact h.cmd_live d hd
      · exact hnew _ (hreg.adds_new d hd).1

lemma step_inv (h : s.Inv) (hclash : s.NoClash act) (hstep : s.step act = some s') : s'.Inv := by
  obtain rfl := step_eq_some hstep
  have hreg := effect_regular s act
  have hnodup := h.added_nodup act
  -- what is in the tables afterwards was there before or is added
  have hevent : ∀ e ∈ (s.apply (s.effect act)).eventCb, e ∈ s.eventCb ∨ e ∈ (s.effect act).registers :=
    fun e he => mem_append.mp ((eraseKeys_sublist _ _).mem he)
  have hcmd : ∀ e ∈ (s.apply (s.effect act)).cmd, e ∈ s.cmd ∨ e ∈ (s.effect act).adds :=
    fun e he => mem_append.mp ((eraseKeys_sublist _ _).mem he)
  refine
    { event_nodup := hnodup.1.sublist (eraseKeys_sublist _ _)
      cmd_nodup := hnodup.2.sublist (eraseKeys_sublist _ _)
      event_live := (apply_live h hclash).1
      cmd_live := (apply_live h hclash).2
      event_made := fun e he => ?_
      cmd_made := fun e he => ?_
      released_made := fun c hc => ?_
      handled := fun e he => (hevent e he).elim (h.handled e) (hreg.handled e)
      ids := fun e he => (hcmd e he).elim (h.ids e) (hreg.ids e)
      own := ?_ }
  · show e.cbArg.object < s.created + (s.effect act).creates
    rcases hevent e he with he | he
    · exact Nat.lt_add_right _ (h.event_made e he)
    · have hnew := hreg.registers_new e he
      omega
  · show e.cmd.object < s.created + (s.effect act).creates
    rcases hcmd e he with he | he
    · exact Nat.lt_add_right _ (h.cmd_made e he)
    · have hnew := hreg.adds_new e he
      omega
  · rcases mem_append.mp hc with hc | hc
    · exact Nat.lt_add_right _ (h.released_made c hc)
    · exact (releasable h hclash hc).made
  · simp [h.own, onlyOwn_of_noClash h hclash]

lemma not_ok_of_clash (h : s.Inv) (hclash : ¬ s.NoClash act) (hstep : s.step act = some s') : ¬ s'.Ok := by
  obtain rfl := step_eq_some hstep
  intro hok
  have hown := hok.own
  simp [not_onlyOwn_of_clash h hclash] at hown

/-- **The tables along a run.**  Whatever the ids and whatever the driver refuses, the entries are of commands
that are not released and no call removes another's, all along the run, iff no call clashes. -/
theorem tables_ok_iff (acts : List WifiAct) : Along step Ok init acts ↔ StepsMeet step NoClash init acts := by
  -- no call is refused, so there is a run
  rcases run_eq_some_of_total (fun s act => ⟨_, rfl⟩) acts init with ⟨u, hrun⟩
  exact along_iff_stepsMeet (fun s act s' => step_inv) (fun s h => h.ok) (fun s act s' => not_ok_of_clash) init_inv hrun

/-- A scan, then full scan results under an id of their own, which are stopped. -/
def sharedEventRun : List WifiAct :=
  [.start .scan 1 [true, true, true, true, true, true], .start .fullScanResults 2 [true, true],
    .stop .fullScanResults 2]

/-- **The handler that goes is the scan's**, and the one that stays is of the command that was released. -/
theorem stop_leaves_released_command :
    ∃ u e, run step init sharedEventRun = some u ∧ e ∈ u.eventCb ∧ e.vendorSubcmd = .fullScanResults ∧
      e.cbArg = ⟨1, 2, .fullScanResults⟩ ∧ e.cbArg ∈ u.released ∧
      (∀ d ∈ u.eventCb, d.cbArg = ⟨0, 1, .scan⟩ → d.vendorSubcmd ≠ .fullScanResults) ∧
      (∃ d ∈ u.cmd, d.cmd = ⟨0, 1, .scan⟩) ∧ u.stray = true ∧ ¬ StepsMeet step NoClash init sharedEventRun := by
  refine ⟨_, ⟨.fullScanResults, ⟨1, 2, .fullScanResults⟩⟩, rfl, ?_⟩
  decide

/-- Two RTT requests under one id, the second refused: the entry of the first goes. -/
example : ∃ u, run step init [.start .rtt 1 [true, true], .start .rtt 1 [true, false]] = some u ∧
    u.cmd = [⟨1, ⟨1, 1, .rtt⟩⟩] ∧ u.released = [⟨1, 1, .rtt⟩] := ⟨_, rfl, by decide⟩

/-- Where events and ids are each one command's, the tables are right. -/
example : StepsMeet step NoClash init
    [.start .rtt 1 [true, true], .start .bssidHotlist 2 [true, true, true, false], .start .scan 3 [],
      .rttEvent true, .stop .scan 3] := by decide

end WifiState

end Hal
