import Mathlib.Data.Int.Basic

/-!
# Slots, error codes, response types

What the modules about `hal/libril` share.  The device is built with `SIM_COUNT == 2`, so
everything the daemon keeps per SIM exists twice.
-/

namespace Hal

/-- The two SIM slots, `RIL_SOCKET_1` and `RIL_SOCKET_2`. -/
inductive Slot where
  | socket1
  | socket2
deriving DecidableEq, Repr, Inhabited

namespace Slot

/-- `(RIL_SOCKET_ID) slotId`, and the slot index used for arrays. -/
def id : Slot → ℤ
  | socket1 => 0
  | socket2 => 1

/-- The choice of the per-slot "hook" by `socket_id`: `RIL_SOCKET_2` is singled out, everything
else falls to the first. -/
def ofSocketId (socketId : ℤ) : Slot := if socketId = 1 then socket2 else socket1

@[simp] lemma ofSocketId_id (slot : Slot) : ofSocketId slot.id = slot := by
  cases slot <;> rfl

lemma forall_slot {p : Slot → Prop} : (∀ slot, p slot) ↔ p socket1 ∧ p socket2 :=
  ⟨fun h => ⟨h _, h _⟩, fun h slot => by cases slot; exacts [h.1, h.2]⟩

instance {p : Slot → Prop} [DecidablePred p] : Decidable (∀ slot, p slot) :=
  decidable_of_iff _ forall_slot.symm

end Slot

/-- `RIL_Errno`: the codes the daemon itself answers with, and whatever else the vendor passes. -/
inductive RilErrno where
  | success
  | requestNotSupported
  | noMemory
  | invalidArguments
  | vendor (code : ℤ)
deriving DecidableEq

/-- `RESPONSE_SOLICITED` and `RESPONSE_SOLICITED_ACK_EXP`. -/
inductive ResponseType where
  | solicited
  | solicitedAckExp
deriving DecidableEq

/-- `RIL_E_INVALID_RESPONSE`. -/
def RilErrno.invalidResponse : RilErrno := .vendor 66

/-- The errors of `RadioError` have the values of `RIL_Errno`. -/
structure RadioResponseInfo where
  type : ResponseType
  serial : ℤ
  error : RilErrno
deriving DecidableEq

def populateResponseInfo (serial : ℤ) (responseType : ResponseType) (e : RilErrno) :
    RadioResponseInfo := ⟨responseType, serial, e⟩

/-- `if (e == RIL_E_SUCCESS) responseInfo.error = RadioError::INVALID_RESPONSE`. -/
def RadioResponseInfo.refuse (info : RadioResponseInfo) (e : RilErrno) : RadioResponseInfo :=
  if e = .success then { info with error := .invalidResponse } else info

theorem refuse_error (serial : ℤ) (responseType : ResponseType) (e : RilErrno) :
    ((populateResponseInfo serial responseType e).refuse e).error = .invalidResponse ↔
      e = .success ∨ e = .invalidResponse := by
  by_cases he : e = .success
  · simp [RadioResponseInfo.refuse, he]
  · simp [RadioResponseInfo.refuse, he, populateResponseInfo]

end Hal
