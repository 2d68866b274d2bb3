import Mathlib.Data.List.Basic
import DeviceHal.Ril.Types

/-!
# Copying a request's arguments

Every method of the radio service copies its HIDL arguments into the C structures of the vendor
interface before it hands the request over, and any of these copies may run out of memory; some
methods check their arguments first, and some are refused outright.  A method is modelled by the
list of its fallible steps; `marshal` runs them up to the first that fails.
-/

namespace Hal

/-! ## Copying arguments -/

/-- A `hidl_string`: `size()` bytes, followed by a NUL in what `c_str()` points at. -/
abbrev HidlString := List UInt8

/-- `strlen` of what `c_str()` points at. -/
def strlen (src : HidlString) : ℕ := (src.takeWhile (· ≠ 0)).length

inductive CopyResult where
  | copied (dest : Option HidlString)
  | noMemory
  | truncated

/-- `copyHidlStringToRil`; `allocated` says whether `calloc` returned memory. -/
def copyHidlStringToRil (allocated : Bool) (src : HidlString) : CopyResult :=
  if src.length = 0 then .copied none
  else if allocated = false then .noMemory
  else if strlen src ≥ src.length + 1 then .truncated
  else .copied (some (src.takeWhile (· ≠ 0)))

/-- One fallible step on the way from the HIDL arguments to the vendor's structures: an array from
`calloc`, a string copied, or a check answered with an error when it fails. -/
inductive MarshalStep where
  | calloc (allocated : Bool)
  | copyHidlString (allocated : Bool) (src : HidlString)
  | check (holds : Bool) (err : RilErrno)

/-- What becomes of the request: it is handed on, answered with an error, or dropped in
silence. -/
inductive MarshalResult where
  | ready
  | error (err : RilErrno)
  | dropped
deriving DecidableEq

/-- The steps in order, up to the first that fails. -/
def marshal : List MarshalStep → MarshalResult
  | [] => .ready
  | .calloc allocated :: steps => if allocated then marshal steps else .error .noMemory
  | .copyHidlString allocated src :: steps =>
    match copyHidlStringToRil allocated src with
    | .copied _ => marshal steps
    | .noMemory => .error .noMemory
    | .truncated => .dropped
  | .check holds err :: steps => if holds then marshal steps else .error err

/-- The step does not fail: its memory is there, or not needed, and its check holds. -/
def MarshalStep.Passes : MarshalStep → Prop
  | .calloc allocated => allocated = true
  | .copyHidlString allocated src => src = [] ∨ allocated = true
  | .check holds _ => holds = true

instance : DecidablePred MarshalStep.Passes
  | .calloc _ => inferInstanceAs (Decidable (_ = _))
  | .copyHidlString _ _ => inferInstanceAs (Decidable (_ ∨ _))
  | .check _ _ => inferInstanceAs (Decidable (_ = _))

lemma strlen_le (src : HidlString) : strlen src ≤ src.length :=
  (List.takeWhile_sublist _).length_le

/-- The truncation branch is never taken: `c_str()` ends at `size()` at the latest. -/
lemma copyHidlStringToRil_cases (allocated : Bool) (src : HidlString) :
    (∃ dest, copyHidlStringToRil allocated src = .copied dest ∧ (src = [] ∨ allocated = true))
      ∨ (copyHidlStringToRil allocated src = .noMemory ∧ src ≠ [] ∧ allocated = false) := by
  have hlen := strlen_le src
  unfold copyHidlStringToRil
  split_ifs with hnil halloc htrunc
  · exact .inl ⟨_, rfl, .inl (List.length_eq_zero_iff.mp hnil)⟩
  · exact .inr ⟨rfl, fun h => hnil (by simp [h]), halloc⟩
  · omega
  · exact .inl ⟨_, rfl, .inr (by simpa using halloc)⟩

/-- **A request is handed on** iff none of its steps fails. -/
lemma marshal_eq_ready_iff (steps : List MarshalStep) : marshal steps = .ready ↔ ∀ m ∈ steps, m.Passes := by
  induction steps with
  | nil => simp [marshal]
  | cons m steps ih =>
    rw [List.forall_mem_cons, ← ih]
    cases m with
    | calloc allocated => cases allocated <;> simp [marshal, MarshalStep.Passes]
    | copyHidlString allocated src =>
      rcases copyHidlStringToRil_cases allocated src with ⟨dest, hcopy, hpass⟩ | ⟨hcopy, hne, hno⟩
      · simp [marshal, hcopy, MarshalStep.Passes, hpass]
      · subst hno
        simp [marshal, hcopy, MarshalStep.Passes, hne]
    | check holds err => cases holds <;> simp [marshal, MarshalStep.Passes]

/-! ## The methods of the radio service

What each method copies, as a list of steps.  The `Bool`s are the outcomes of its allocations. -/

def dispatchVoid : List MarshalStep := []

/-- `dispatchRaw`: the bytes are passed as they are. -/
def dispatchRaw : List MarshalStep := []

def dispatchString (str : Bool × HidlString) : List MarshalStep := [.copyHidlString str.1 str.2]

/-- `dispatchStrings`, in both its forms. -/
def dispatchStrings (array : Bool) (strings : List (Bool × HidlString)) : List MarshalStep :=
  .calloc array :: strings.map fun str => .copyHidlString str.1 str.2

def dispatchInts (array : Bool) : List MarshalStep := [.calloc array]

/-- `dispatchCallForwardStatus`: only the number is a string. -/
def dispatchCallForwardStatus (number : Bool × HidlString) : List MarshalStep :=
  dispatchString number

/-- `dispatchIccApdu`: only the data is a string. -/
def dispatchIccApdu (data : Bool × HidlString) : List MarshalStep := dispatchString data

/-- `dial`: the address, and the data of the first `uusInfo` if there is one. -/
def dial (address : Bool × HidlString) (uusData : Option (Bool × HidlString)) : List MarshalStep :=
  dispatchString address ++ (uusData.elim [] dispatchString)

/-- `iccIOForApp`: path, data, pin2 and aid. -/
def iccIOForApp (path data pin2 aid : Bool × HidlString) : List MarshalStep :=
  [path, data, pin2, aid].flatMap dispatchString

def setAllowedCarriers (allowed excluded : Bool) : List MarshalStep := [.calloc allowed, .calloc excluded]

/-- `dispatchImsGsmSms`: exactly one message, an array of two, smsc and pdu. -/
def dispatchImsGsmSms (messages : ℕ) (array : Bool) (smscPdu pdu : Bool × HidlString) : List MarshalStep :=
  .check (messages == 1) .invalidArguments :: dispatchStrings array [smscPdu, pdu]

/-- `getCdmaSubscriptionSource`, `iccOpenLogicalChannel`, `getHardwareConfig`, `startLceService`:
"skip with error". -/
def notSupported : List MarshalStep := [.check false .requestNotSupported]

/-- `setIndicationFilter`, which needs version 15 of the vendor interface. -/
def setIndicationFilter (version : ℕ) (array : Bool) : List MarshalStep :=
  .check (15 ≤ version) .requestNotSupported :: dispatchInts array

/-! What it takes for a method to be handed on. -/

section Ready

variable (address path data pin2 aid smscPdu pdu : Bool × HidlString) (array : Bool)

@[simp] lemma mem_dispatchString_passes (str : Bool × HidlString) :
    (∀ m ∈ dispatchString str, m.Passes) ↔ str.2 = [] ∨ str.1 = true := List.forall_mem_singleton

lemma marshal_dispatchRaw : marshal dispatchRaw = .ready := rfl

lemma marshal_dial (uusData : Option (Bool × HidlString)) :
    marshal (dial address uusData) = .ready ↔ ∀ str ∈ address :: uusData.toList, str.2 = [] ∨ str.1 = true := by
  rw [marshal_eq_ready_iff, dial, List.forall_mem_append, List.forall_mem_cons, mem_dispatchString_passes]
  cases uusData <;> simp

lemma marshal_iccIOForApp :
    marshal (iccIOForApp path data pin2 aid) = .ready ↔ ∀ str ∈ [path, data, pin2, aid], str.2 = [] ∨ str.1 = true := by
  simp only [marshal_eq_ready_iff, iccIOForApp, List.forall_mem_flatMap, mem_dispatchString_passes]

lemma marshal_setAllowedCarriers (allowed excluded : Bool) :
    marshal (setAllowedCarriers allowed excluded) = .ready ↔ allowed = true ∧ excluded = true := by
  simp [marshal_eq_ready_iff, setAllowedCarriers, MarshalStep.Passes]

lemma marshal_dispatchImsGsmSms (messages : ℕ) :
    marshal (dispatchImsGsmSms messages array smscPdu pdu) = .ready ↔
      messages = 1 ∧ array = true ∧ ∀ str ∈ [smscPdu, pdu], str.2 = [] ∨ str.1 = true := by
  simp [marshal_eq_ready_iff, dispatchImsGsmSms, dispatchStrings, MarshalStep.Passes]

lemma marshal_setIndicationFilter (version : ℕ) :
    marshal (setIndicationFilter version array) = .ready ↔ 15 ≤ version ∧ array = true := by
  simp [marshal_eq_ready_iff, setIndicationFilter, dispatchInts, MarshalStep.Passes]

end Ready

end Hal
