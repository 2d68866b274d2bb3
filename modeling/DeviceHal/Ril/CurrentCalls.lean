import DeviceHal.Core.Loops
import DeviceHal.Ril.Types
import Mathlib.Data.List.Forall2

/-!
# The list of current calls

`getCurrentCallsResponse` makes a `Call` for each of the vendor's calls.  The vector of calls is resized
first and then filled.  The user-to-user information of a call is a vector of its own inside the `Call`,
which is written at index 0 and never resized.

* `convertCall_ok`, `uus_eq_none_of_convertCall` — one call: it is converted iff it comes without
  user-to-user information.
* **`currentCalls_preserved_iff`** — the whole list.
-/

namespace Hal

open List hiding Vector

structure RilUusInfo where
  uusType : ℤ
  uusDcs : ℤ
  uusLength : ℤ
  uusData : Option (List UInt8)

/-- `RIL_Call`.  A string that is `NULL` is `none`. -/
structure RilCall where
  state : ℤ
  index : ℤ
  toa : ℤ
  isMpty : UInt8
  isMT : UInt8
  als : UInt8
  isVoice : UInt8
  isVoicePrivacy : UInt8
  number : Option (List UInt8)
  numberPresentation : ℤ
  name : Option (List UInt8)
  namePresentation : ℤ
  uusInfo : Option RilUusInfo

structure UusInfo where
  uusType : ℤ
  uusDcs : ℤ
  uusData : List UInt8
deriving DecidableEq

structure Call where
  state : ℤ
  index : ℤ
  toa : ℤ
  isMpty : Bool
  isMT : Bool
  als : UInt8
  isVoice : Bool
  isVoicePrivacy : Bool
  number : List UInt8
  numberPresentation : ℤ
  name : List UInt8
  namePresentation : ℤ
  uusInfo : List UusInfo
deriving DecidableEq

/-- An element of a vector after `resize`. -/
def Call.zero : Call := ⟨0, 0, 0, false, false, 0, false, false, [], 0, [], 0, []⟩

def convertCharPtrToHidlString (ptr : Option (List UInt8)) : List UInt8 :=
  match ptr with
  | some s => s
  | none => []

/-- `strndup(data, n)`; a negative length is a large `size_t`. -/
def strndup (data : List UInt8) (n : ℤ) : List UInt8 :=
  (data.takeWhile (· ≠ 0)).take (n % 2 ^ 32).toNat

/-- `uusInfo[0].field = value`. -/
def setFirst (uusInfo : List UusInfo) (set : UusInfo → UusInfo) : Except Fault (List UusInfo) :=
  match uusInfo with
  | [] => .error (.store 0 1 0)
  | first :: rest => .ok (set first :: rest)

/-- The user-to-user information a call comes with: both pointers are set. -/
def RilCall.uus (call : RilCall) : Option (RilUusInfo × List UInt8) :=
  match call.uusInfo with
  | none => none
  | some info =>
    match info.uusData with
    | none => none
    | some data => some (info, data)

/-- The body of the `if` on `uusInfo` and `uusData`. -/
def convertUus (call : RilCall) (uusInfo : List UusInfo) : Except Fault (List UusInfo) :=
  match call.uus with
  | none => .ok uusInfo
  | some (info, data) => do
    let uusInfo ← setFirst uusInfo ({ · with uusType := info.uusType })
    let uusInfo ← setFirst uusInfo ({ · with uusDcs := info.uusDcs })
    let nullTermStr := strndup data info.uusLength
    setFirst uusInfo ({ · with uusData := nullTermStr })

/-- The body of the loop, on an element as `resize` has left it. -/
def convertCall (call : RilCall) : Except Fault Call := do
  let uusInfo ← convertUus call Call.zero.uusInfo
  .ok {
    state := call.state
    index := call.index
    toa := call.toa
    isMpty := call.isMpty ≠ 0
    isMT := call.isMT ≠ 0
    als := call.als
    isVoice := call.isVoice ≠ 0
    isVoicePrivacy := call.isVoicePrivacy ≠ 0
    number := convertCharPtrToHidlString call.number
    numberPresentation := call.numberPresentation
    name := convertCharPtrToHidlString call.name
    namePresentation := call.namePresentation
    uusInfo := uusInfo }

/-- `response` with `responseLen`: not a whole number of pointers, or `NULL`, or that many calls. -/
inductive CallsResponse where
  | null
  | ragged
  | calls (calls : List RilCall)

def getCurrentCallsResponse (serial : ℤ) (responseType : ResponseType) (e : RilErrno)
    (response : CallsResponse) : Except Fault (RadioResponseInfo × List Call) :=
  let info := populateResponseInfo serial responseType e
  match response with
  | .null => .ok (info.refuse e, [])
  | .ragged => .ok (info.refuse e, [])
  | .calls response => do
    let num := response.length
    let calls ← fill (fun i => readAt response i >>= convertCall) num (Vector.replicate num Call.zero)
    .ok (info, calls.toList)

/-! ## What is asked of it -/

/-- **A call is reported as it is**: every field, and the user-to-user information if there is any. -/
structure Preserves (call : RilCall) (reported : Call) : Prop where
  state : reported.state = call.state
  index : reported.index = call.index
  toa : reported.toa = call.toa
  isMpty : reported.isMpty = true ↔ call.isMpty ≠ 0
  isMT : reported.isMT = true ↔ call.isMT ≠ 0
  als : reported.als = call.als
  isVoice : reported.isVoice = true ↔ call.isVoice ≠ 0
  isVoicePrivacy : reported.isVoicePrivacy = true ↔ call.isVoicePrivacy ≠ 0
  number : reported.number = call.number.getD []
  numberPresentation : reported.numberPresentation = call.numberPresentation
  name : reported.name = call.name.getD []
  namePresentation : reported.namePresentation = call.namePresentation
  uus : reported.uusInfo =
    match call.uus with
    | none => []
    | some (info, data) => [⟨info.uusType, info.uusDcs, strndup data info.uusLength⟩]

def ListsCalls (calls : List RilCall) (outcome : Except Fault (RadioResponseInfo × List Call)) : Prop :=
  ∃ info reported, outcome = .ok (info, reported) ∧ List.Forall₂ Preserves calls reported

/-! ## One call -/

theorem convertCharPtrToHidlString_eq (ptr : Option (List UInt8)) : convertCharPtrToHidlString ptr = ptr.getD [] := by
  cases ptr <;> rfl

variable {call : RilCall}

/-- The vector has no element 0 to write to. -/
theorem convertUus_eq_error {info : RilUusInfo} {data : List UInt8}
    (h : call.uus = some (info, data)) : convertUus call [] = .error (.store 0 1 0) := by
  rw [convertUus, h]
  rfl

theorem uus_eq_none_of_convertCall {reported : Call} (h : convertCall call = .ok reported) : call.uus = none := by
  cases huus : call.uus with
  | none => rfl
  | some p =>
    obtain ⟨uusInfo, hinfo, -⟩ := bind_eq_ok.mp h
    rw [show Call.zero.uusInfo = [] from rfl, convertUus_eq_error huus] at hinfo
    cases hinfo

/-- **A call without user-to-user information is converted, and nothing of it is lost.** -/
theorem convertCall_ok (h : call.uus = none) :
    ∃ reported, convertCall call = .ok reported ∧ Preserves call reported := by
  have hinfo : convertUus call Call.zero.uusInfo = .ok [] := by
    rw [convertUus, h]
    rfl
  refine ⟨_, by rw [convertCall, hinfo]; rfl, ?_⟩
  constructor <;> simp [convertCharPtrToHidlString_eq, h]

/-! ## The list -/

/-- Calls that are all converted are a list of conversions. -/
theorem exists_converted {calls : List RilCall} (h : ∀ call ∈ calls, call.uus = none) :
    ∃ reported, List.Forall₂ (fun call r => convertCall call = .ok r ∧ Preserves call r) calls reported := by
  induction calls with
  | nil => exact ⟨[], .nil⟩
  | cons call calls ih =>
    obtain ⟨r, hr⟩ := convertCall_ok (h call mem_cons_self)
    obtain ⟨rs, hrs⟩ := ih fun c hc => h c (mem_cons_of_mem call hc)
    exact ⟨r :: rs, .cons hr hrs⟩

/-- **The list is reported as it is iff no call has user-to-user information.** -/
theorem currentCalls_preserved_iff (serial : ℤ) (responseType : ResponseType) (e : RilErrno) (calls : List RilCall) :
    ListsCalls calls (getCurrentCallsResponse serial responseType e (.calls calls)) ↔
      ∀ call ∈ calls, call.uus = none := by
  constructor
  · rintro ⟨info, reported, hout, -⟩ call hcall
    obtain ⟨filled, hfilled, -⟩ := bind_eq_ok.mp hout
    obtain ⟨i, hi, rfl⟩ := getElem_of_mem hcall
    obtain ⟨r, hr⟩ := exists_value_of_fill_ok hfilled hi
    rw [readAt_of_getElem? (List.getElem?_eq_getElem hi)] at hr
    exact uus_eq_none_of_convertCall hr
  · intro h
    obtain ⟨reported, hreported⟩ := exists_converted h
    have hlen : calls.length = reported.length := hreported.length_eq
    have hvalue : ∀ i r, i < calls.length → reported[i]? = some r →
        (readAt calls i >>= convertCall) = .ok r := by
      intro i r hi hr
      obtain ⟨hi', rfl⟩ := List.getElem?_eq_some_iff.mp hr
      rw [readAt_of_getElem? (List.getElem?_eq_getElem hi)]
      exact (hreported.get hi hi').1
    obtain ⟨filled, hfilled, hto⟩ := fill_ok (a := Vector.replicate calls.length Call.zero)
      (Nat.le_refl _) (Nat.le_of_eq hlen) hvalue
    refine ⟨populateResponseInfo serial responseType e, reported, ?_, hreported.imp fun _ _ h => h.2⟩
    have hall : filled.toList = reported := by
      rw [hto, hlen, take_length, drop_eq_nil_of_le (by simp), append_nil]
    simp only [getCurrentCallsResponse, hfilled]
    rw [← hall]
    rfl

/-- **One incoming call with two bytes of user-to-user information**: element 0 of an empty vector is
written. -/
theorem call_with_uus_outside :
    getCurrentCallsResponse 7 .solicited .success
      (.calls [⟨4, 1, 145, 0, 1, 0, 1, 0, some [49, 50], 0, none, 2, some ⟨0, 0, 2, some [104, 105]⟩⟩]) =
        .error (.store 0 1 0) := by
  decide

end Hal
