import DeviceHal.Core.Numbered

/-!
# The command table

`s_commands` is put together from include files: the rows of the standard requests, by request number,
and after them the rows of the vendor requests, which are numbered from `RIL_REQUEST_VENDOR_BASE` on.
`RIL_register` checks that and remembers where the vendor rows begin; `addRequestToList` computes from
a request number the row it attaches to the new request, and `RIL_onRequestComplete` calls the response
function of that row.

The table is one numbered in two ranges (`Numbered`).  **`request_answered_iff`**: in the table of this device,
whose vendor rows are commented out, the requests that get their own row are those below `NUM_ELEMS(s_commands)`.  A
vendor request gets the row of some standard request, or none at all.
-/

namespace Hal

open List

/-- `RIL_CMD_PROXY_1` to `RIL_CMD_PROXY_6`. -/
inductive Proxy where
  | proxy1
  | proxy2
  | proxy3
  | proxy4
  | proxy5
  | proxy6
deriving DecidableEq

/-- The response functions of namespace `radio` that the table names: `getIccCardStatusResponse` and so on. -/
inductive ResponseFunction where
  | getIccCardStatus
  | supplyIccPinForApp
  | supplyIccPukForApp
  | supplyIccPin2ForApp
  | supplyIccPuk2ForApp
  | changeIccPinForApp
  | changeIccPin2ForApp
  | supplyNetworkDepersonalization
  | getCurrentCalls
  | dial
  | getIMSIForApp
  | hangupConnection
  | hangupWaitingOrBackground
  | hangupForegroundResumeBackground
  | switchWaitingOrHoldingAndActive
  | conference
  | rejectCall
  | getLastCallFailCause
  | getSignalStrength
  | getVoiceRegistrationState
  | getDataRegistrationState
  | getOperator
  | setRadioPower
  | sendDtmf
  | sendSms
  | sendSMSExpectMore
  | setupDataCall
  | iccIOForApp
  | sendUssd
  | cancelPendingUssd
  | getClir
  | setClir
  | getCallForwardStatus
  | setCallForward
  | getCallWaiting
  | setCallWaiting
  | acknowledgeLastIncomingGsmSms
  | acceptCall
  | deactivateDataCall
  | getFacilityLockForApp
  | setFacilityLockForApp
  | setBarringPassword
  | getNetworkSelectionMode
  | setNetworkSelectionModeAutomatic
  | setNetworkSelectionModeManual
  | getAvailableNetworks
  | startDtmf
  | stopDtmf
  | getBasebandVersion
  | separateConnection
  | setMute
  | getMute
  | getClip
  | getDataCallList
  | sendRequestRaw
  | sendRequestStrings
  | sendDeviceState
  | setSuppServiceNotifications
  | writeSmsToSim
  | deleteSmsOnSim
  | setBandMode
  | getAvailableBandModes
  | sendEnvelope
  | sendTerminalResponseToSim
  | handleStkCallSetupRequestFromSim
  | explicitCallTransfer
  | setPreferredNetworkType
  | getPreferredNetworkType
  | getNeighboringCids
  | setLocationUpdates
  | setCdmaSubscriptionSource
  | setCdmaRoamingPreference
  | getCdmaRoamingPreference
  | setTTYMode
  | getTTYMode
  | setPreferredVoicePrivacy
  | getPreferredVoicePrivacy
  | sendCDMAFeatureCode
  | sendBurstDtmf
  | sendCdmaSms
  | acknowledgeLastIncomingCdmaSms
  | getGsmBroadcastConfig
  | setGsmBroadcastConfig
  | setGsmBroadcastActivation
  | getCdmaBroadcastConfig
  | setCdmaBroadcastConfig
  | setCdmaBroadcastActivation
  | getCDMASubscription
  | writeSmsToRuim
  | deleteSmsOnRuim
  | getDeviceIdentity
  | exitEmergencyCallbackMode
  | getSmscAddress
  | setSmscAddress
  | reportSmsMemoryStatus
  | reportStkServiceIsRunning
  | getCdmaSubscriptionSource
  | requestIsimAuthentication
  | acknowledgeIncomingGsmSmsWithPdu
  | sendEnvelopeWithStatus
  | getVoiceRadioTechnology
  | getCellInfoList
  | setCellInfoListRate
  | setInitialAttachApn
  | getImsRegistrationState
  | sendImsSms
  | iccTransmitApduBasicChannel
  | iccOpenLogicalChannel
  | iccCloseLogicalChannel
  | iccTransmitApduLogicalChannel
  | nvReadItem
  | nvWriteItem
  | nvWriteCdmaPrl
  | nvResetConfig
  | setUiccSubscription
  | setDataAllowed
  | getHardwareConfig
  | requestIccSimAuthentication
  | setDataProfile
  | requestShutdown
  | getRadioCapability
  | setRadioCapability
  | startLceService
  | stopLceService
  | pullLceData
  | getModemActivityInfo
  | setAllowedCarriers
  | getAllowedCarriers
  | setIndicationFilter
  | setSimCardPower
deriving DecidableEq

/-- `CommandInfo`; a `NULL` response function is `none`. -/
structure CommandInfo where
  requestNumber : ℕ
  responseFunction : Option ResponseFunction
  proxyId : Proxy

/-- `s_commands`: `ril_commands.h`.  The line that includes `mtk_ril_commands.h` is commented out. -/
def sCommands : List CommandInfo :=
  [⟨0, none, .proxy3⟩,
    ⟨1, some .getIccCardStatus, .proxy1⟩,
    ⟨2, some .supplyIccPinForApp, .proxy1⟩,
    ⟨3, some .supplyIccPukForApp, .proxy1⟩,
    ⟨4, some .supplyIccPin2ForApp, .proxy1⟩,
    ⟨5, some .supplyIccPuk2ForApp, .proxy1⟩,
    ⟨6, some .changeIccPinForApp, .proxy1⟩,
    ⟨7, some .changeIccPin2ForApp, .proxy1⟩,
    ⟨8, some .supplyNetworkDepersonalization, .proxy1⟩,
    ⟨9, some .getCurrentCalls, .proxy2⟩,
    ⟨10, some .dial, .proxy2⟩,
    ⟨11, some .getIMSIForApp, .proxy1⟩,
    ⟨12, some .hangupConnection, .proxy4⟩,
    ⟨13, some .hangupWaitingOrBackground, .proxy4⟩,
    ⟨14, some .hangupForegroundResumeBackground, .proxy4⟩,
    ⟨15, some .switchWaitingOrHoldingAndActive, .proxy4⟩,
    ⟨16, some .conference, .proxy4⟩,
    ⟨17, some .rejectCall, .proxy2⟩,
    ⟨18, some .getLastCallFailCause, .proxy2⟩,
    ⟨19, some .getSignalStrength, .proxy3⟩,
    ⟨20, some .getVoiceRegistrationState, .proxy3⟩,
    ⟨21, some .getDataRegistrationState, .proxy3⟩,
    ⟨22, some .getOperator, .proxy3⟩,
    ⟨23, some .setRadioPower, .proxy1⟩,
    ⟨24, some .sendDtmf, .proxy2⟩,
    ⟨25, some .sendSms, .proxy1⟩,
    ⟨26, some .sendSMSExpectMore, .proxy1⟩,
    ⟨27, some .setupDataCall, .proxy5⟩,
    ⟨28, some .iccIOForApp, .proxy1⟩,
    ⟨29, some .sendUssd, .proxy2⟩,
    ⟨30, some .cancelPendingUssd, .proxy2⟩,
    ⟨31, some .getClir, .proxy2⟩,
    ⟨32, some .setClir, .proxy2⟩,
    ⟨33, some .getCallForwardStatus, .proxy1⟩,
    ⟨34, some .setCallForward, .proxy2⟩,
    ⟨35, some .getCallWaiting, .proxy1⟩,
    ⟨36, some .setCallWaiting, .proxy2⟩,
    ⟨37, some .acknowledgeLastIncomingGsmSms, .proxy2⟩,
    ⟨38, none, .proxy3⟩,
    ⟨39, none, .proxy3⟩,
    ⟨40, some .acceptCall, .proxy2⟩,
    ⟨41, some .deactivateDataCall, .proxy5⟩,
    ⟨42, some .getFacilityLockForApp, .proxy1⟩,
    ⟨43, some .setFacilityLockForApp, .proxy1⟩,
    ⟨44, some .setBarringPassword, .proxy2⟩,
    ⟨45, some .getNetworkSelectionMode, .proxy3⟩,
    ⟨46, some .setNetworkSelectionModeAutomatic, .proxy3⟩,
    ⟨47, some .setNetworkSelectionModeManual, .proxy3⟩,
    ⟨48, some .getAvailableNetworks, .proxy3⟩,
    ⟨49, some .startDtmf, .proxy2⟩,
    ⟨50, some .stopDtmf, .proxy2⟩,
    ⟨51, some .getBasebandVersion, .proxy3⟩,
    ⟨52, some .separateConnection, .proxy4⟩,
    ⟨53, some .setMute, .proxy2⟩,
    ⟨54, some .getMute, .proxy2⟩,
    ⟨55, some .getClip, .proxy2⟩,
    ⟨56, none, .proxy5⟩,
    ⟨57, some .getDataCallList, .proxy5⟩,
    ⟨58, none, .proxy1⟩,
    ⟨59, some .sendRequestRaw, .proxy6⟩,
    ⟨60, some .sendRequestStrings, .proxy3⟩,
    ⟨61, some .sendDeviceState, .proxy3⟩,
    ⟨62, some .setSuppServiceNotifications, .proxy2⟩,
    ⟨63, some .writeSmsToSim, .proxy1⟩,
    ⟨64, some .deleteSmsOnSim, .proxy1⟩,
    ⟨65, some .setBandMode, .proxy3⟩,
    ⟨66, some .getAvailableBandModes, .proxy3⟩,
    ⟨67, none, .proxy1⟩,
    ⟨68, none, .proxy1⟩,
    ⟨69, some .sendEnvelope, .proxy1⟩,
    ⟨70, some .sendTerminalResponseToSim, .proxy1⟩,
    ⟨71, some .handleStkCallSetupRequestFromSim, .proxy1⟩,
    ⟨72, some .explicitCallTransfer, .proxy2⟩,
    ⟨73, some .setPreferredNetworkType, .proxy1⟩,
    ⟨74, some .getPreferredNetworkType, .proxy1⟩,
    ⟨75, some .getNeighboringCids, .proxy4⟩,
    ⟨76, some .setLocationUpdates, .proxy3⟩,
    ⟨77, some .setCdmaSubscriptionSource, .proxy3⟩,
    ⟨78, some .setCdmaRoamingPreference, .proxy3⟩,
    ⟨79, some .getCdmaRoamingPreference, .proxy3⟩,
    ⟨80, some .setTTYMode, .proxy3⟩,
    ⟨81, some .getTTYMode, .proxy3⟩,
    ⟨82, some .setPreferredVoicePrivacy, .proxy2⟩,
    ⟨83, some .getPreferredVoicePrivacy, .proxy2⟩,
    ⟨84, some .sendCDMAFeatureCode, .proxy2⟩,
    ⟨85, some .sendBurstDtmf, .proxy2⟩,
    ⟨86, none, .proxy2⟩,
    ⟨87, some .sendCdmaSms, .proxy1⟩,
    ⟨88, some .acknowledgeLastIncomingCdmaSms, .proxy1⟩,
    ⟨89, some .getGsmBroadcastConfig, .proxy2⟩,
    ⟨90, some .setGsmBroadcastConfig, .proxy1⟩,
    ⟨91, some .setGsmBroadcastActivation, .proxy1⟩,
    ⟨92, some .getCdmaBroadcastConfig, .proxy1⟩,
    ⟨93, some .setCdmaBroadcastConfig, .proxy1⟩,
    ⟨94, some .setCdmaBroadcastActivation, .proxy1⟩,
    ⟨95, some .getCDMASubscription, .proxy1⟩,
    ⟨96, some .writeSmsToRuim, .proxy1⟩,
    ⟨97, some .deleteSmsOnRuim, .proxy1⟩,
    ⟨98, some .getDeviceIdentity, .proxy3⟩,
    ⟨99, some .exitEmergencyCallbackMode, .proxy2⟩,
    ⟨100, some .getSmscAddress, .proxy2⟩,
    ⟨101, some .setSmscAddress, .proxy2⟩,
    ⟨102, some .reportSmsMemoryStatus, .proxy1⟩,
    ⟨103, some .reportStkServiceIsRunning, .proxy1⟩,
    ⟨104, some .getCdmaSubscriptionSource, .proxy1⟩,
    ⟨105, some .requestIsimAuthentication, .proxy1⟩,
    ⟨106, some .acknowledgeIncomingGsmSmsWithPdu, .proxy1⟩,
    ⟨107, some .sendEnvelopeWithStatus, .proxy2⟩,
    ⟨108, some .getVoiceRadioTechnology, .proxy3⟩,
    ⟨109, some .getCellInfoList, .proxy2⟩,
    ⟨110, some .setCellInfoListRate, .proxy3⟩,
    ⟨111, some .setInitialAttachApn, .proxy1⟩,
    ⟨112, some .getImsRegistrationState, .proxy3⟩,
    ⟨113, some .sendImsSms, .proxy1⟩,
    ⟨114, some .iccTransmitApduBasicChannel, .proxy1⟩,
    ⟨115, some .iccOpenLogicalChannel, .proxy1⟩,
    ⟨116, some .iccCloseLogicalChannel, .proxy1⟩,
    ⟨117, some .iccTransmitApduLogicalChannel, .proxy1⟩,
    ⟨118, some .nvReadItem, .proxy4⟩,
    ⟨119, some .nvWriteItem, .proxy4⟩,
    ⟨120, some .nvWriteCdmaPrl, .proxy4⟩,
    ⟨121, some .nvResetConfig, .proxy4⟩,
    ⟨122, some .setUiccSubscription, .proxy1⟩,
    ⟨123, some .setDataAllowed, .proxy5⟩,
    ⟨124, some .getHardwareConfig, .proxy1⟩,
    ⟨125, some .requestIccSimAuthentication, .proxy3⟩,
    ⟨126, none, .proxy1⟩,
    ⟨127, none, .proxy1⟩,
    ⟨128, some .setDataProfile, .proxy1⟩,
    ⟨129, some .requestShutdown, .proxy1⟩,
    ⟨130, some .getRadioCapability, .proxy1⟩,
    ⟨131, some .setRadioCapability, .proxy1⟩,
    ⟨132, some .startLceService, .proxy5⟩,
    ⟨133, some .stopLceService, .proxy5⟩,
    ⟨134, some .pullLceData, .proxy5⟩,
    ⟨135, some .getModemActivityInfo, .proxy1⟩,
    ⟨136, some .setAllowedCarriers, .proxy4⟩,
    ⟨137, some .getAllowedCarriers, .proxy4⟩,
    ⟨138, some .sendDeviceState, .proxy3⟩,
    ⟨139, some .setIndicationFilter, .proxy3⟩,
    ⟨140, some .setSimCardPower, .proxy1⟩]

/-- `RIL_REQUEST_VENDOR_BASE`. -/
def requestVendorBase : ℕ := 2000

/-! ## The self-check of `RIL_register` -/

/-- The self-check: `mtk_command_start` if every assertion holds. -/
def selfCheck (table : List CommandInfo) : Option ℕ :=
  Numbered.check (fun ci : CommandInfo => (ci.requestNumber : ℤ)) 0 requestVendorBase table

/-! ## The row of a request -/

/-- The index that `addRequestToList` computes. -/
def commandIndex (mtkCommandStart : ℕ) (request : ℤ) : ℤ :=
  Numbered.index 0 requestVendorBase mtkCommandStart request

variable {ci : CommandInfo}

/-! ## This device -/

/-- `mtk_command_start`: there is no vendor row to set it. -/
def mtkCommandStart : ℕ := 0

/-- The table passes the self-check, which leaves `mtk_command_start` at its initial value. -/
lemma selfCheck_sCommands : selfCheck sCommands = some mtkCommandStart := by decide

/-- `pRI->pCI`. -/
def commandInfo (request : ℤ) : Option CommandInfo :=
  Numbered.rowAt sCommands (commandIndex mtkCommandStart request)

/-- `commandIndex` for the requests that are not negative. -/
def requestIndex (request : ℕ) : ℕ :=
  if request < requestVendorBase then request else request - requestVendorBase + mtkCommandStart

lemma commandInfo_natCast (request : ℕ) : commandInfo request = sCommands[requestIndex request]? := by
  have hindex : commandIndex mtkCommandStart request = (requestIndex request : ℤ) := by
    simp only [commandIndex, Numbered.index, requestIndex]
    split_ifs <;> omega
  rw [commandInfo, hindex, Numbered.rowAt, if_neg (by omega), Int.toNat_natCast]

/-- `pRI->pCI->proxyId`. -/
def proxyOf (request : ℕ) : Option Proxy :=
  (sCommands[requestIndex request]?).map CommandInfo.proxyId

lemma requestNumber_lt_of_mem : ∀ ci ∈ sCommands, ci.requestNumber < requestVendorBase := by
  decide +kernel

lemma requestNumber_eq {i : ℕ} (h : sCommands[i]? = some ci) : ci.requestNumber = i := by
  have hplaced := Numbered.check_row selfCheck_sCommands (by decide) h
  have hplace := hplaced.of_lt (Int.ofNat_lt.mpr (requestNumber_lt_of_mem ci (mem_of_getElem? h)))
  omega

/-- What a new `RequestInfo` holds that its completion looks at. -/
structure CommandRequest where
  isLocal : Bool
  pCI : CommandInfo

/-- `addRequestToList`, when `calloc` gives a `RequestInfo`. -/
def CommandRequest.addRequestToList (serial request : ℤ) : Option CommandRequest :=
  (commandInfo request).map fun pCI => ⟨serial == -1, pCI⟩

/-- `RIL_onRequestComplete`: the response function it calls.  None for a command of the daemon itself,
for a cancelled one, or for a row without one. -/
def CommandRequest.onRequestComplete (pRI : CommandRequest) (cancelled : Bool) : Option ResponseFunction :=
  if pRI.isLocal then none
  else if cancelled then none
  else pRI.pCI.responseFunction

/-- The response function of a request: that of the row with its number. -/
def responseOf (request : ℤ) : Option ResponseFunction :=
  (sCommands.find? fun ci => (ci.requestNumber : ℤ) = request).bind CommandInfo.responseFunction

lemma responseOf_requestNumber {i : ℕ} (h : sCommands[i]? = some ci) :
    responseOf ci.requestNumber = ci.responseFunction := by
  -- rows with one number have one index
  have hunique : ∀ row ∈ sCommands, row.requestNumber = ci.requestNumber → row = ci := by
    intro row hmem hnumber
    obtain ⟨k, hk⟩ := mem_iff_getElem?.mp hmem
    have hki : k = i := by rw [← requestNumber_eq hk, ← requestNumber_eq h, hnumber]
    rw [hki, h] at hk
    exact (Option.some.inj hk).symm
  unfold responseOf
  cases hfind : sCommands.find? fun row => (row.requestNumber : ℤ) = ci.requestNumber with
  | none =>
    have hnot := find?_eq_none.mp hfind ci (mem_of_getElem? h)
    simp at hnot
  | some row =>
    have hp := find?_some hfind
    have hnumber : row.requestNumber = ci.requestNumber := by exact_mod_cast of_decide_eq_true hp
    rw [hunique row (mem_of_find?_eq_some hfind) hnumber]
    rfl

/-- The row that a request gets is its own. -/
def Answered (serial request : ℤ) : Prop :=
  ∃ pRI, CommandRequest.addRequestToList serial request = some pRI
    ∧ (pRI.pCI.requestNumber : ℤ) = request
    ∧ ∀ cancelled, pRI.onRequestComplete cancelled
        = if serial = -1 ∨ cancelled = true then none else responseOf request

/-- A row that is found is a standard one, so it is not that of a vendor request. -/
lemma not_answered_of_vendor {serial request : ℤ} (hvendor : requestVendorBase ≤ request) :
    ¬ Answered serial request := by
  rintro ⟨pRI, hadd, hnumber, -⟩
  obtain ⟨ci, hrow, rfl⟩ := Option.map_eq_some_iff.mp hadd
  obtain ⟨k, -, hk⟩ := Numbered.rowAt_eq_some.mp hrow
  have hsides := (Numbered.row_number_iff selfCheck_sCommands (by decide) hrow).mp hnumber
  have hrequest := hsides.mp (Int.ofNat_lt.mpr (requestNumber_lt_of_mem ci (mem_of_getElem? hk)))
  omega

/-- **Which requests get their own row**, and on completion their own response function: those with a
row in the table. -/
theorem request_answered_iff (serial request : ℤ) :
    Answered serial request ↔ 0 ≤ request ∧ request < sCommands.length := by
  constructor
  · rintro ⟨pRI, hadd, hnumber, -⟩
    obtain ⟨ci, hrow, rfl⟩ := Option.map_eq_some_iff.mp hadd
    obtain ⟨k, -, hk⟩ := Numbered.rowAt_eq_some.mp hrow
    have hlt := (List.getElem?_eq_some_iff.mp hk).1
    have hown := requestNumber_eq hk
    dsimp only at hnumber
    omega
  · rintro ⟨hnonneg, hlt⟩
    obtain ⟨k, rfl⟩ := Int.eq_ofNat_of_zero_le hnonneg
    obtain ⟨ci, hk⟩ : ∃ ci, sCommands[k]? = some ci :=
      ⟨_, getElem?_eq_getElem (by exact_mod_cast hlt)⟩
    have hown := requestNumber_eq hk
    have hstandard : k < requestVendorBase :=
      hown ▸ requestNumber_lt_of_mem ci (mem_of_getElem? hk)
    have hrow : commandInfo k = some ci := by
      rw [commandInfo_natCast, requestIndex, if_pos hstandard]
      exact hk
    refine ⟨⟨serial == -1, ci⟩, by simp [CommandRequest.addRequestToList, hrow], by simp [hown], ?_⟩
    intro cancelled
    have hresponse : responseOf k = ci.responseFunction := by
      rw [← hown]
      exact responseOf_requestNumber hk
    by_cases hlocal : serial = -1 <;> cases cancelled <;>
      simp [CommandRequest.onRequestComplete, hlocal, hresponse]

/-- `RIL_REQUEST_MODEM_POWEROFF`, which `setSimCardPower` sends. -/
def requestModemPoweroff : ℤ := requestVendorBase + 10

/-- `RIL_REQUEST_SET_CALL_INDICATION`, which `incomingCallInd` sends. -/
def requestSetCallIndication : ℤ := requestVendorBase + 86

/-- **The defect**: switching the SIM card off is answered as a dialled call, and the indication of an
incoming call is listed as `RIL_REQUEST_CDMA_VALIDATE_AND_WRITE_AKEY`. -/
theorem vendor_request_gets_other_row :
    (CommandRequest.addRequestToList 7 requestModemPoweroff).map (fun pRI =>
        (pRI.pCI.requestNumber, pRI.onRequestComplete false)) = some (10, some .dial)
      ∧ (CommandRequest.addRequestToList (-1) requestSetCallIndication).map (fun pRI =>
        pRI.pCI.requestNumber) = some 86
      ∧ ¬ Answered 7 requestModemPoweroff ∧ ¬ Answered (-1) requestSetCallIndication := by
  exact ⟨by decide, by decide, not_answered_of_vendor (by decide), not_answered_of_vendor (by decide)⟩

end Hal
