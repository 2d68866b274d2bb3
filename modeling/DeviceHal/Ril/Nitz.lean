import DeviceHal.Core.Machine
import DeviceHal.Ril.Types

/-!
# Network time that could not be delivered

NITZ time cannot be asked for again.  If the client of a slot is not connected when it arrives,
`send_unsolResponse` keeps a copy, and `onNewCommandConnect` sends it when a client is.

The code keeps one copy, `s_lastNITZTimeData`, for both slots.  What it is for takes one per slot:
`SlotNitz` does that, and runs alongside as a ghost, so that what the code sent can be compared with
what each slot should have got.  The code takes no lock for its copy; an indication and a connection
are one step each, so races within them are left out.

**The defect.**  The copy does not know its slot.  The first client to connect gets it, and the
time of one slot replaces that of the other.  `nitz_resent_ok`: each slot is sent its own, the most
recent one, as long as the copy is not used for two slots at once.
-/

namespace Hal

open List Option Function

/-- A copy of NITZ data.  The slot it was received on is a ghost. -/
structure NitzData where
  receivedOn : Slot
  text : List UInt8
deriving DecidableEq

/-- What the code sent late, and to which slot. -/
structure NitzResend where
  slot : Slot
  data : NitzData
deriving DecidableEq

/-- What can happen.  `timer` and `copy` say whether the two allocations of `send_unsolResponse`
succeed: that of the wake timeout, and that of the copy. -/
inductive NitzAct where
  | nitzTimeReceived (slot : Slot) (text : List UInt8) (timer copy : Bool)
  | setResponseFunctions (slot : Slot) (indication : Bool)
  | checkReturnStatus (slot : Slot)
  | onNewCommandConnect (slot : Slot)

/-- `nitzTimeReceivedInd` with a connected client: an empty response is not passed on. -/
def nitzSent {β : Type} (text : List UInt8) (sent : β) : List β := if text = [] then [] else [sent]

/-! ## One copy per slot -/

/-- The undelivered data of each slot, and what was sent late. -/
structure SlotNitz where
  last : Slot → Option (List UInt8)
  resent : List (Slot × List UInt8)

namespace SlotNitz

/-- Undelivered data is kept, for its slot, if there is memory for it. -/
def keep (t : SlotNitz) (slot : Slot) (text : List UInt8) (copy : Bool) : SlotNitz :=
  { t with last := update t.last slot (if copy then some text else none) }

/-- A connected client is sent what its slot has. -/
def resend (t : SlotNitz) (slot : Slot) : SlotNitz :=
  match t.last slot with
  | none => t
  | some text =>
    { last := update t.last slot none
      resent := t.resent ++ nitzSent text (slot, text) }

end SlotNitz

/-! ## One copy -/

/-- Per slot whether there is an `mRadioIndication`, and the copy. -/
structure NitzState where
  radioIndication : Slot → Bool
  lastNITZTimeData : Option NitzData
  resent : List NitzResend
  perSlot : SlotNitz

namespace NitzState

def init : NitzState := ⟨fun _ => false, none, [], ⟨fun _ => none, []⟩⟩

/-- `send_unsolResponse` after `nitzTimeReceivedInd` has returned `-1`.  Below version 13 it does not
come to the copy if the wake timeout cannot be scheduled. -/
def keep (version : ℕ) (s : NitzState) (slot : Slot) (text : List UInt8) (timer copy : Bool) : NitzState :=
  if version < 13 ∧ timer = false then s
  else
    { s with
      lastNITZTimeData := if copy then some ⟨slot, text⟩ else none
      perSlot := s.perSlot.keep slot text copy }

/-- `resendLastNITZTimeData` with a connected client. -/
def resend (s : NitzState) (slot : Slot) : NitzState :=
  let s := { s with perSlot := s.perSlot.resend slot }
  match s.lastNITZTimeData with
  | none => s
  | some data =>
    { s with
      lastNITZTimeData := none
      resent := s.resent ++ nitzSent data.text ⟨slot, data⟩ }

/-- One action.  Clients come with or without an indication object, and are dropped when a call on
them fails; `onNewCommandConnect` is not under the lock. -/
def step (version : ℕ) (s : NitzState) : NitzAct → Option NitzState
  | .nitzTimeReceived slot text timer copy =>
    if s.radioIndication slot then some s else some (s.keep version slot text timer copy)
  | .setResponseFunctions slot indication =>
    some { s with radioIndication := update s.radioIndication slot indication }
  | .checkReturnStatus slot =>
    some { s with radioIndication := update s.radioIndication slot false }
  | .onNewCommandConnect slot => if s.radioIndication slot then some (s.resend slot) else some s

structure Ok (s : NitzState) : Prop where
  /-- What was sent late went to the slot it was received on. -/
  own_slot : ∀ r ∈ s.resent, r.data.receivedOn = r.slot
  /-- Each slot was sent its own most recent undelivered data, whenever there was any. -/
  own_latest : s.resent.map (fun r => (r.slot, r.data.text)) = s.perSlot.resent

/-- The copy, if there is one, is of the slot. -/
def CopyOf (s : NitzState) (slot : Slot) : Prop :=
  ∀ data ∈ s.lastNITZTimeData, data.receivedOn = slot

/-- Where the copy is used, it is for the slot it is of: for time that cannot be delivered, and for a
client that connects. -/
def OneSlot (s : NitzState) : NitzAct → Prop
  | .nitzTimeReceived slot _ _ _ => s.radioIndication slot = false → s.CopyOf slot
  | .onNewCommandConnect slot => s.radioIndication slot = true → s.CopyOf slot
  | _ => True

/-! ## The copy stands for the copies -/

/-- The copy as the copies of both slots. -/
def copies (last : Option NitzData) (slot : Slot) : Option (List UInt8) :=
  match last with
  | none => none
  | some data => if data.receivedOn = slot then some data.text else none

structure Inv (s : NitzState) : Prop where
  ok : s.Ok
  copies : s.perSlot.last = copies s.lastNITZTimeData

lemma init_inv : init.Inv := ⟨⟨by simp [init], by simp [init]⟩, rfl⟩

lemma copies_some (slot : Slot) (text : List UInt8) :
    copies (some ⟨slot, text⟩) = update (fun _ => none) slot (some text) := by
  funext slot'
  by_cases hslot : slot' = slot
  · subst hslot
    simp [copies]
  · simp [copies, update_of_ne hslot, Ne.symm hslot]

lemma update_copies {last : Option NitzData} {slot : Slot} (h : ∀ data ∈ last, data.receivedOn = slot)
    (text : Option (List UInt8)) : update (copies last) slot text = update (fun _ => none) slot text := by
  cases last with
  | none => rfl
  | some data =>
    have hslot : data.receivedOn = slot := h data rfl
    funext slot'
    by_cases heq : slot' = slot
    · subst heq
      simp
    · simp [update_of_ne heq, copies, hslot, Ne.symm heq]

lemma inv_keep {version : ℕ} {s : NitzState} (h : s.Inv) {slot : Slot} (hcopy : s.CopyOf slot)
    (text : List UInt8) (timer copy : Bool) : (s.keep version slot text timer copy).Inv := by
  simp only [keep]
  by_cases hskip : version < 13 ∧ timer = false
  · rw [if_pos hskip]
    exact h
  · rw [if_neg hskip]
    refine ⟨⟨h.ok.own_slot, h.ok.own_latest⟩, ?_⟩
    dsimp only [SlotNitz.keep]
    rw [h.copies, update_copies hcopy]
    cases copy with
    | true => exact (copies_some slot text).symm
    | false => exact update_eq_self slot _

lemma inv_resend {s : NitzState} (h : s.Inv) {slot : Slot} (hcopy : s.CopyOf slot) : (s.resend slot).Inv := by
  have hlast : s.perSlot.last slot = s.lastNITZTimeData.map NitzData.text := by
    rw [h.copies]
    cases hdata : s.lastNITZTimeData with
    | none => rfl
    | some data => simp [copies, hcopy data hdata]
  cases hdata : s.lastNITZTimeData with
  | none =>
    rw [hdata] at hlast
    have hsame : s.resend slot = s := by
      simp only [resend, SlotNitz.resend, hlast, map_none]
      split
      · rfl
      · next data heq => exact absurd (hdata.symm.trans heq) (by simp)
    rw [hsame]
    exact h
  | some data =>
    simp only [resend, SlotNitz.resend, hlast, hdata, map_some]
    refine ⟨⟨fun r hr => ?_, ?_⟩, ?_⟩
    · rcases mem_append.mp hr with hr | hr
      · exact h.ok.own_slot r hr
      · simp only [nitzSent] at hr
        split_ifs at hr
        · cases hr
        · rcases mem_singleton.mp hr with rfl
          exact hcopy data hdata
    · rw [map_append, h.ok.own_latest]
      simp only [nitzSent]
      split_ifs <;> rfl
    · rw [h.copies, update_copies hcopy]
      exact update_eq_self slot _

/-- **One step.** -/
lemma step_inv {version : ℕ} (s : NitzState) (act : NitzAct) (s' : NitzState) (h : s.Inv)
    (hok : s.OneSlot act) (hs' : s.step version act = some s') : s'.Inv := by
  cases act with
  | nitzTimeReceived slot text timer copy =>
    simp only [step] at hs'
    split_ifs at hs' with hind
    · exact Option.some.inj hs' ▸ h
    · cases hs'
      exact inv_keep h (hok (Bool.eq_false_iff.mpr hind)) text timer copy
  | setResponseFunctions | checkReturnStatus =>
    cases hs'
    exact ⟨⟨h.ok.own_slot, h.ok.own_latest⟩, h.copies⟩
  | onNewCommandConnect slot =>
    simp only [step] at hs'
    split_ifs at hs' with hind
    · cases hs'
      exact inv_resend h (hok hind)
    · exact Option.some.inj hs' ▸ h

/-- **Late NITZ time goes to its own slot**, in every state of a run that uses the copy for one slot
at a time. -/
theorem nitz_resent_ok (version : ℕ) (acts : List NitzAct)
    (hacts : StepsMeet (step version) OneSlot init acts) : Along (step version) Ok init acts :=
  along_of_stepsMeet step_inv (fun _ h => h.ok) init_inv hacts

/-- Slot 2 gets the second of two, then slot 1 its own. -/
def nitzRun : List NitzAct :=
  [.nitzTimeReceived .socket2 [49] true true, .nitzTimeReceived .socket2 [50] true true,
    .setResponseFunctions .socket2 true, .onNewCommandConnect .socket2,
    .nitzTimeReceived .socket1 [51] true true, .setResponseFunctions .socket1 true,
    .onNewCommandConnect .socket1]

theorem nitz_resent_ok_nitzRun :
    ((run (step 11) init nitzRun).map fun s => s.resent)
        = some [⟨.socket2, .socket2, [50]⟩, ⟨.socket1, .socket1, [51]⟩]
      ∧ Along (step 11) Ok init nitzRun := by
  refine ⟨by decide, nitz_resent_ok 11 nitzRun ?_⟩
  refine stepsMeet_cons rfl (fun _ => by simp [CopyOf, init]) ?_
  refine stepsMeet_cons rfl (fun _ data hdata => (Option.some.inj hdata) ▸ rfl) ?_
  refine stepsMeet_cons rfl trivial ?_
  refine stepsMeet_cons rfl (fun _ data hdata => (Option.some.inj hdata) ▸ rfl) ?_
  refine stepsMeet_cons rfl (fun _ data hdata => absurd hdata (not_mem_none data)) ?_
  refine stepsMeet_cons rfl trivial ?_
  exact stepsMeet_cons rfl (fun _ data hdata => (Option.some.inj hdata) ▸ rfl) trivial

/-- Time received on slot 2 is sent to the client of slot 1. -/
theorem resendLastNITZTimeData_other_slot :
    ∃ s, run (step 11) init [.nitzTimeReceived .socket2 [49] true true,
        .setResponseFunctions .socket1 true, .onNewCommandConnect .socket1] = some s
      ∧ s.resent = [⟨.socket1, .socket2, [49]⟩] ∧ ¬ s.Ok :=
  ⟨_, rfl, rfl, fun h => absurd (h.own_slot _ mem_cons_self) (by decide)⟩

end NitzState

end Hal
