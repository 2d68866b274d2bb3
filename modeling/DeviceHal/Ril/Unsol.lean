import DeviceHal.Core.Copies
import DeviceHal.Core.Numbered

/-!
# The table of unsolicited responses

`s_unsolResponses` holds the rows of the standard unsolicited responses, numbered from
`RIL_UNSOL_RESPONSE_BASE` on, and after them the rows of the vendor's, numbered from
`RIL_UNSOL_VENDOR_BASE` on.  `send_unsolResponse` turns a code of the vendor library into an index,
rejects a negative index and a code beyond the last vendor row, and uses the row at the index: for the
wake lock, for the kind of the response and for the function it calls.

A code between the two ranges is rejected by neither test.  Its index runs on into the vendor rows, and
after them out of the table.

* **`unsol_own_row_iff`** — the codes that are rejected or get their own row.
-/

namespace Hal

/-- The indication functions of namespace `radio` that the table names. -/
inductive IndicationFunction where
  | radioStateChangedInd
  | callStateChangedInd
  | networkStateChangedInd
  | newSmsInd
  | newSmsStatusReportInd
  | newSmsOnSimInd
  | onUssdInd
  | nitzTimeReceivedInd
  | currentSignalStrengthInd
  | dataCallListChangedInd
  | suppSvcNotifyInd
  | stkSessionEndInd
  | stkProactiveCommandInd
  | stkEventNotifyInd
  | stkCallSetupInd
  | simSmsStorageFullInd
  | simRefreshInd
  | callRingInd
  | simStatusChangedInd
  | cdmaNewSmsInd
  | newBroadcastSmsInd
  | cdmaRuimSmsStorageFullInd
  | restrictedStateChangedInd
  | enterEmergencyCallbackModeInd
  | cdmaCallWaitingInd
  | cdmaOtaProvisionStatusInd
  | cdmaInfoRecInd
  | oemHookRawInd
  | indicateRingbackToneInd
  | resendIncallMuteInd
  | cdmaSubscriptionSourceChangedInd
  | cdmaPrlChangedInd
  | exitEmergencyCallbackModeInd
  | rilConnectedInd
  | voiceRadioTechChangedInd
  | cellInfoListInd
  | imsNetworkStateChangedInd
  | subscriptionStatusChangedInd
  | srvccStateNotifyInd
  | hardwareConfigChangedInd
  | radioCapabilityIndicationInd
  | onSupplementaryServiceIndicationInd
  | stkCallControlAlphaNotifyInd
  | lceDataInd
  | pcoDataInd
  | modemResetInd
  | psNetworkStateChangedInd
  | registrationSuspendInd
  | incomingCallInd
  | callInfoInd
  | setAttachApnInd
deriving DecidableEq

inductive WakeType where
  | dontWake
  | wakePartial
deriving DecidableEq

/-- `UnsolResponseInfo`; `NULL` is `none`. -/
structure UnsolResponseInfo where
  requestNumber : ℤ
  responseFunction : Option IndicationFunction
  wakeType : WakeType
deriving DecidableEq

/-- `RIL_UNSOL_RESPONSE_BASE`. -/
def unsolResponseBase : ℤ := 1000

/-- `RIL_UNSOL_VENDOR_BASE`. -/
def unsolVendorBase : ℤ := 3000

def rilUnsolCommands : List UnsolResponseInfo :=
  [⟨1000, some .radioStateChangedInd, .wakePartial⟩,
    ⟨1001, some .callStateChangedInd, .wakePartial⟩,
    ⟨1002, some .networkStateChangedInd, .wakePartial⟩,
    ⟨1003, some .newSmsInd, .wakePartial⟩,
    ⟨1004, some .newSmsStatusReportInd, .wakePartial⟩,
    ⟨1005, some .newSmsOnSimInd, .wakePartial⟩,
    ⟨1006, some .onUssdInd, .wakePartial⟩,
    ⟨1007, some .onUssdInd, .dontWake⟩,
    ⟨1008, some .nitzTimeReceivedInd, .wakePartial⟩,
    ⟨1009, some .currentSignalStrengthInd, .dontWake⟩,
    ⟨1010, some .dataCallListChangedInd, .wakePartial⟩,
    ⟨1011, some .suppSvcNotifyInd, .wakePartial⟩,
    ⟨1012, some .stkSessionEndInd, .wakePartial⟩,
    ⟨1013, some .stkProactiveCommandInd, .wakePartial⟩,
    ⟨1014, some .stkEventNotifyInd, .wakePartial⟩,
    ⟨1015, some .stkCallSetupInd, .wakePartial⟩,
    ⟨1016, some .simSmsStorageFullInd, .wakePartial⟩,
    ⟨1017, some .simRefreshInd, .wakePartial⟩,
    ⟨1018, some .callRingInd, .wakePartial⟩,
    ⟨1019, some .simStatusChangedInd, .wakePartial⟩,
    ⟨1020, some .cdmaNewSmsInd, .wakePartial⟩,
    ⟨1021, some .newBroadcastSmsInd, .wakePartial⟩,
    ⟨1022, some .cdmaRuimSmsStorageFullInd, .wakePartial⟩,
    ⟨1023, some .restrictedStateChangedInd, .wakePartial⟩,
    ⟨1024, some .enterEmergencyCallbackModeInd, .wakePartial⟩,
    ⟨1025, some .cdmaCallWaitingInd, .wakePartial⟩,
    ⟨1026, some .cdmaOtaProvisionStatusInd, .wakePartial⟩,
    ⟨1027, some .cdmaInfoRecInd, .wakePartial⟩,
    ⟨1028, some .oemHookRawInd, .wakePartial⟩,
    ⟨1029, some .indicateRingbackToneInd, .wakePartial⟩,
    ⟨1030, some .resendIncallMuteInd, .wakePartial⟩,
    ⟨1031, some .cdmaSubscriptionSourceChangedInd, .wakePartial⟩,
    ⟨1032, some .cdmaPrlChangedInd, .wakePartial⟩,
    ⟨1033, some .exitEmergencyCallbackModeInd, .wakePartial⟩,
    ⟨1034, some .rilConnectedInd, .wakePartial⟩,
    ⟨1035, some .voiceRadioTechChangedInd, .wakePartial⟩,
    ⟨1036, some .cellInfoListInd, .wakePartial⟩,
    ⟨1037, some .imsNetworkStateChangedInd, .wakePartial⟩,
    ⟨1038, some .subscriptionStatusChangedInd, .wakePartial⟩,
    ⟨1039, some .srvccStateNotifyInd, .wakePartial⟩,
    ⟨1040, some .hardwareConfigChangedInd, .wakePartial⟩,
    ⟨1041, none, .wakePartial⟩,
    ⟨1042, some .radioCapabilityIndicationInd, .wakePartial⟩,
    ⟨1043, some .onSupplementaryServiceIndicationInd, .wakePartial⟩,
    ⟨1044, some .stkCallControlAlphaNotifyInd, .wakePartial⟩,
    ⟨1045, some .lceDataInd, .wakePartial⟩,
    ⟨1046, some .pcoDataInd, .wakePartial⟩,
    ⟨1047, some .modemResetInd, .wakePartial⟩]

/-- The functions in the rows of `mtk_ril_unsol_commands.h`; most rows have `NULL`. -/
def mtkIndicationFunction : ℕ → Option IndicationFunction
  | 3015 => some .psNetworkStateChangedInd
  | 3024 => some .registrationSuspendInd
  | 3042 => some .incomingCallInd
  | 3049 => some .callInfoInd
  | 3073 => some .setAttachApnInd
  | _ => none

/-- The rows of `mtk_ril_unsol_commands.h`, one for each number from `RIL_UNSOL_NEIGHBORING_CELL_INFO` to
`RIL_UNSOL_SETUP_DATA_CALL_RESPONSE`. -/
def mtkRilUnsolCommands : List UnsolResponseInfo :=
  (List.range' 3000 81).map fun n : ℕ => ⟨n, mtkIndicationFunction n, .wakePartial⟩

def sUnsolResponses : List UnsolResponseInfo := rilUnsolCommands ++ mtkRilUnsolCommands

/-- The self-check of `RIL_register`: `mtk_unsol_start` if every assertion holds. -/
def unsolSelfCheck (table : List UnsolResponseInfo) : Option ℕ :=
  Numbered.check UnsolResponseInfo.requestNumber unsolResponseBase unsolVendorBase table

/-- `mtk_unsol_start`, as the self-check leaves it. -/
def mtkUnsolStart : ℕ := 48

lemma unsolSelfCheck_sUnsolResponses : unsolSelfCheck sUnsolResponses = some mtkUnsolStart := by
  decide +kernel

/-! ## `send_unsolResponse` -/

/-- `RESPONSE_UNSOLICITED` and `RESPONSE_UNSOLICITED_ACK_EXP`. -/
inductive UnsolResponseType where
  | unsolicited
  | unsolicitedAckExp
deriving DecidableEq

/-- What is done with the row that is used: whether the wake lock is taken, what kind of response goes
out, which function is called and whether the release of the wake lock is scheduled. -/
structure UnsolSent where
  info : UnsolResponseInfo
  grabbed : Bool
  responseType : UnsolResponseType
  called : Option IndicationFunction
  timeout : Bool
deriving DecidableEq

/-- The part of `send_unsolResponse` that has a row, under the version of the vendor's functions. -/
def UnsolResponseInfo.send (info : UnsolResponseInfo) (version : ℤ) : UnsolSent where
  info := info
  grabbed := info.wakeType = .wakePartial
  responseType :=
    if version ≥ 13 ∧ info.wakeType = .wakePartial then .unsolicitedAckExp else .unsolicited
  called := info.responseFunction
  timeout := version < 13 ∧ info.wakeType = .wakePartial

/-- The ways through `send_unsolResponse`.  `undefined` is an index that `int` does not hold, or one
outside the table. -/
inductive UnsolOutcome where
  | unsupported
  | undefined
  | sent (s : UnsolSent)
deriving DecidableEq

/-- `unsolResponseIndex`; `none` when the subtraction overflows. -/
def unsolResponseIndex (unsolResponse : ℤ) : Option ℤ :=
  let index := Numbered.index unsolResponseBase unsolVendorBase mtkUnsolStart unsolResponse
  if InInt index then some index else none

def Unsol.sendUnsolResponse (version : ℤ) (unsolResponse : Int32) : UnsolOutcome :=
  match unsolResponseIndex unsolResponse.toInt with
  | none => .undefined
  | some index =>
    if index < 0 then .unsupported
    else if unsolResponse.toInt > unsolVendorBase + 80 then .unsupported
    else
      match Numbered.rowAt sUnsolResponses index with
      | none => .undefined
      | some info => .sent (info.send version)

/-- The code is rejected before the table is read, or the row that is used is its own. -/
def OwnRow (version : ℤ) (unsolResponse : Int32) : Prop :=
  Unsol.sendUnsolResponse version unsolResponse = .unsupported
    ∨ ∃ s, Unsol.sendUnsolResponse version unsolResponse = .sent s
        ∧ s.info.requestNumber = unsolResponse.toInt

variable {k : ℕ}

lemma requestNumber_lt_iff {info : UnsolResponseInfo} (h : sUnsolResponses[k]? = some info) :
    info.requestNumber < unsolVendorBase ↔ k < mtkUnsolStart := by
  have hlength : rilUnsolCommands.length = mtkUnsolStart := rfl
  have hstandard : ∀ row ∈ rilUnsolCommands, row.requestNumber < unsolVendorBase := by decide +kernel
  have hvendor : ∀ row ∈ mtkRilUnsolCommands, ¬ row.requestNumber < unsolVendorBase := by
    decide +kernel
  by_cases hk : k < mtkUnsolStart
  · rw [sUnsolResponses, List.getElem?_append_left (hlength ▸ hk)] at h
    exact iff_of_true (hstandard info (List.mem_of_getElem? h)) hk
  · rw [sUnsolResponses, List.getElem?_append_right (by omega)] at h
    exact iff_of_false (hvendor info (List.mem_of_getElem? h)) hk

/-- The code of a row that is read is the row's own iff both are standard or both are vendor ones. -/
lemma requestNumber_eq_iff {c : ℤ} {info : UnsolResponseInfo}
    (hindex : Numbered.index unsolResponseBase unsolVendorBase mtkUnsolStart c = k)
    (h : sUnsolResponses[k]? = some info) : info.requestNumber = c ↔ (k < mtkUnsolStart ↔ c < unsolVendorBase) := by
  have hrow : Numbered.rowAt sUnsolResponses
      (Numbered.index unsolResponseBase unsolVendorBase mtkUnsolStart c) = some info :=
    Numbered.rowAt_eq_some.mpr ⟨k, hindex, h⟩
  rw [Numbered.row_number_iff unsolSelfCheck_sUnsolResponses (by decide) hrow, requestNumber_lt_iff h]

variable {unsolResponse : Int32} {version : ℤ}

lemma ownRow_of_rejected {i : ℤ} (hindex : unsolResponseIndex unsolResponse.toInt = some i)
    (h : i < 0 ∨ unsolResponse.toInt > unsolVendorBase + 80) : OwnRow version unsolResponse := by
  left
  simp only [Unsol.sendUnsolResponse, hindex]
  rcases h with h | h
  · rw [if_pos h]
  · rw [if_pos h, ite_self]

lemma ownRow_iff_of_read
    (hindex : Numbered.index unsolResponseBase unsolVendorBase mtkUnsolStart unsolResponse.toInt = k)
    (hk : (k : ℤ) < 2147483648) (hle : ¬ unsolResponse.toInt > unsolVendorBase + 80) :
    OwnRow version unsolResponse
      ↔ k < sUnsolResponses.length ∧ (k < mtkUnsolStart ↔ unsolResponse.toInt < unsolVendorBase) := by
  have hint : InInt (k : ℤ) := ⟨by omega, hk⟩
  have hsend : Unsol.sendUnsolResponse version unsolResponse
      = match sUnsolResponses[k]? with
        | none => .undefined
        | some info => .sent (info.send version) := by
    simp only [Unsol.sendUnsolResponse, unsolResponseIndex, hindex, if_pos hint]
    rw [if_neg (by omega), if_neg hle, Numbered.rowAt, if_neg (by omega), Int.toNat_natCast]
  cases hrow : sUnsolResponses[k]? with
  | none =>
    have hout : ¬ k < sUnsolResponses.length := Nat.not_lt.mpr (List.getElem?_eq_none_iff.mp hrow)
    simp only [OwnRow, hsend, hrow]
    simp [hout]
  | some info =>
    have hin : k < sUnsolResponses.length := (List.getElem?_eq_some_iff.mp hrow).1
    simp only [OwnRow, hsend, hrow]
    simp [hin, UnsolResponseInfo.send, requestNumber_eq_iff hindex hrow]

/-- Below the vendor base: the index counts from the first row, and only the standard rows are right. -/
lemma ownRow_iff_of_lt (hlt : unsolResponse.toInt < unsolVendorBase) :
    OwnRow version unsolResponse
      ↔ -2147483648 + unsolResponseBase ≤ unsolResponse.toInt
        ∧ unsolResponse.toInt < unsolResponseBase + rilUnsolCommands.length := by
  have hstart : rilUnsolCommands.length = mtkUnsolStart := rfl
  have hmtk : mtkUnsolStart = 48 := rfl
  have hlength : sUnsolResponses.length = 129 := rfl
  have hbase : unsolResponseBase = 1000 := rfl
  have hvendorBase : unsolVendorBase = 3000 := rfl
  have hindex : Numbered.index unsolResponseBase unsolVendorBase mtkUnsolStart unsolResponse.toInt
      = unsolResponse.toInt - unsolResponseBase := if_pos hlt
  by_cases hoverflow : unsolResponse.toInt < -2147483648 + unsolResponseBase
  · have hnone : unsolResponseIndex unsolResponse.toInt = none := by
      exact if_neg fun hint => by have := hint.1; omega
    have hundefined : Unsol.sendUnsolResponse version unsolResponse = .undefined := by
      simp only [Unsol.sendUnsolResponse, hnone]
    refine iff_of_false ?_ (by omega)
    rintro (h | ⟨s, h, -⟩)
    · rw [hundefined] at h
      cases h
    · rw [hundefined] at h
      cases h
  by_cases hneg : unsolResponse.toInt < unsolResponseBase
  · have hsome : unsolResponseIndex unsolResponse.toInt
        = some (unsolResponse.toInt - unsolResponseBase) := by
      rw [unsolResponseIndex, hindex]
      exact if_pos ⟨by omega, by omega⟩
    exact iff_of_true (ownRow_of_rejected hsome (.inl (by omega))) ⟨by omega, by omega⟩
  · -- the standard codes and the gap after them
    obtain ⟨k, hk⟩ := Int.eq_ofNat_of_zero_le
      (show 0 ≤ unsolResponse.toInt - unsolResponseBase by omega)
    rw [ownRow_iff_of_read (hindex.trans hk) (by omega) (by omega)]
    omega

lemma ownRow_of_le (hle : unsolVendorBase ≤ unsolResponse.toInt) : OwnRow version unsolResponse := by
  have hmtk : mtkUnsolStart = 48 := rfl
  have hlength : sUnsolResponses.length = 129 := rfl
  have hvendorBase : unsolVendorBase = 3000 := rfl
  have hhigh := Int32.toInt_lt unsolResponse
  have hindex : Numbered.index unsolResponseBase unsolVendorBase mtkUnsolStart unsolResponse.toInt
      = unsolResponse.toInt - unsolVendorBase + mtkUnsolStart := if_neg (Int.not_lt.mpr hle)
  by_cases hlast : unsolResponse.toInt > unsolVendorBase + 80
  · have hsome : unsolResponseIndex unsolResponse.toInt
        = some (unsolResponse.toInt - unsolVendorBase + mtkUnsolStart) := by
      rw [unsolResponseIndex, hindex]
      exact if_pos ⟨by omega, by omega⟩
    exact ownRow_of_rejected hsome (.inr hlast)
  · obtain ⟨k, hk⟩ := Int.eq_ofNat_of_zero_le
      (show 0 ≤ unsolResponse.toInt - unsolVendorBase + mtkUnsolStart by omega)
    rw [ownRow_iff_of_read (hindex.trans hk) (by omega) hlast]
    omega

/-- **Which codes are rejected or get their own row**: those of the standard rows and what lies below
them, and every code from the vendor base on.  The rest are the codes of the gap between the two ranges,
and those so low that the subtraction overflows. -/
theorem unsol_own_row_iff (version : ℤ) (unsolResponse : Int32) :
    OwnRow version unsolResponse
      ↔ (-2147483648 + unsolResponseBase ≤ unsolResponse.toInt
          ∧ unsolResponse.toInt < unsolResponseBase + rilUnsolCommands.length)
        ∨ unsolVendorBase ≤ unsolResponse.toInt := by
  by_cases hvendor : unsolResponse.toInt < unsolVendorBase
  · rw [ownRow_iff_of_lt hvendor, or_iff_left (Int.not_le.mpr hvendor)]
  · exact iff_of_true (ownRow_of_le (Int.not_lt.mp hvendor)) (.inr (Int.not_lt.mp hvendor))

/-- `RIL_UNSOL_CARRIER_INFO_IMSI_ENCRYPTION`, whose row is commented out. -/
def unsolCarrierInfoImsiEncryption : Int32 := 1048

/-- **The defect**: the first code of the gap uses the row of `RIL_UNSOL_NEIGHBORING_CELL_INFO`, the
sixteenth is delivered as a change of the packet network, and one beyond the vendor rows reads outside
the table. -/
theorem gap_code_uses_other_row :
    Unsol.sendUnsolResponse 15 unsolCarrierInfoImsiEncryption
        = .sent (UnsolResponseInfo.send ⟨3000, none, .wakePartial⟩ 15)
      ∧ Unsol.sendUnsolResponse 15 1063
        = .sent (UnsolResponseInfo.send ⟨3015, some .psNetworkStateChangedInd, .wakePartial⟩ 15)
      ∧ Unsol.sendUnsolResponse 15 1129 = .undefined
      ∧ ¬ OwnRow 15 unsolCarrierInfoImsiEncryption := by
  refine ⟨by decide +kernel, by decide +kernel, by decide +kernel, ?_⟩
  rw [ownRow_iff_of_lt (by decide)]
  decide

end Hal
