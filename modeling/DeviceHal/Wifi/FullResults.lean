import DeviceHal.Core.Reads
import DeviceHal.Wifi.ScanResults

/-!
# Events with a full scan result

Two events of the driver carry a `wifi_gscan_full_result_t`: a fixed part of 96 bytes, which ends with the number of
bytes of the information elements, and then these.  `wifi_handle_full_scan_event` passes the result and the elements
on; the event for a passpoint match (ANQPO) has an answer to a GAS query behind the elements, and behind that a
network id.

The vendor data are a list of bytes, and every access of them is a `load`.  Both functions are described by one `Reads`:
which reads they make once the event has passed their checks.

**The defects.**  The result of a full scan is looked for behind an attribute header of four bytes, which the checks
of the length do not count; and its SSID is printed up to a NUL that need not be there.  The other function checks
only that there are as many bytes as in a `wifi_scan_result`, and then follows the two lengths in the event.

* `reads_convertToHalResult`, `reads_fullScan`, `reads_anqp` — what is read.
* **`fullScan_right_iff`**, **`anqpo_right_iff`** — for which events nothing else is, and what is delivered is right.
-/

namespace Hal

/-- An event: the vendor data, if there are any, `event_id`, whether `malloc` has memory, and whether the handler is
set. -/
structure GscanEvent where
  vendorData : Option (List UInt8)
  eventId : ℕ
  malloc : Bool
  handler : Bool

/-- `sizeof(wifi_gscan_full_result_t)`. -/
def gscanFullResultSize : ℕ := 104

/-- `offsetof(wifi_gscan_full_result_t, scan_ch_bucket)`. -/
def scanChBucketOffset : ℕ := 88

/-- `offsetof(wifi_gscan_full_result_t, ie_length)`. -/
def ieLengthOffset : ℕ := 92

/-- `offsetof(wifi_gscan_full_result_t, ie_data)`. -/
def ieDataOffset : ℕ := 96

def dot11MaxSsidLen : ℕ := 32

def maxProbeRespIeLen : ℕ := 2048

def gscanEventFullScanResults : ℕ := 3

/-- `wifi_scan_result`, as far as `convert_to_hal_result` fills it. -/
structure WifiScanResult where
  ts : ℤ
  ssid : List UInt8
  bssid : List UInt8
  channel : ℤ
  rssi : ℤ
  rtt : ℤ
  rttSd : ℤ
  beaconPeriod : ℕ
  capability : ℕ
deriving DecidableEq

/-- `convert_to_hal_result`, from a `wifi_gscan_result_t` at an offset of the data. -/
def convertToHalResult (data : List UInt8) (fixed : ℕ) : Except Fault WifiScanResult := do
  let ts ← loadInt data fixed 8
  let channel ← loadInt data (fixed + 48) 4
  let rssi ← loadInt data (fixed + 52) 4
  let rtt ← loadInt data (fixed + 56) 8
  let rttSd ← loadInt data (fixed + 64) 8
  let beaconPeriod ← loadNat data (fixed + 72) 2
  let capability ← loadNat data (fixed + 74) 2
  let ssid ← load data (fixed + 8) (dot11MaxSsidLen + 1)
  let bssid ← load data (fixed + 41) 6
  .ok ⟨ts, ssid, bssid, channel, rssi, rtt, rttSd, beaconPeriod, capability⟩

def scanResultAt (data : List UInt8) (fixed : ℕ) : WifiScanResult where
  ts := intAt data fixed 8
  ssid := slice data (fixed + 8) (dot11MaxSsidLen + 1)
  bssid := slice data (fixed + 41) 6
  channel := intAt data (fixed + 48) 4
  rssi := intAt data (fixed + 52) 4
  rtt := intAt data (fixed + 56) 8
  rttSd := intAt data (fixed + 64) 8
  beaconPeriod := natAt data (fixed + 72) 2
  capability := natAt data (fixed + 74) 2

lemma reads_convertToHalResult (data : List UInt8) (fixed : ℕ) :
    Reads (convertToHalResult data fixed) (fixed + 76 ≤ data.length) (scanResultAt data fixed) := by
  refine Reads.congr ((reads_loadInt _ _ _).bind <| (reads_loadInt _ _ _).bind <| (reads_loadInt _ _ _).bind <|
    (reads_loadInt _ _ _).bind <| (reads_loadInt _ _ _).bind <| (reads_loadNat _ _ _).bind <|
    (reads_loadNat _ _ _).bind <| (reads_load _ _ _).bind <| (reads_load _ _ _).map _) ?_
  unfold dot11MaxSsidLen
  omega

/-! ## Full scan results -/

/-- What `on_full_scan_result` is given. -/
structure FullScanReport where
  result : WifiScanResult
  ieData : List UInt8
  scanChBucket : ℕ
deriving DecidableEq

/-- The end of `wifi_handle_full_scan_event`, from `convert_to_hal_result` on.  The SSID is read once more by the line
that prints it, as a string. -/
def readFullScan (data : List UInt8) (drvRes ieLen : ℕ) : Except Fault FullScanReport := do
  let result ← convertToHalResult data drvRes
  let ieData ← load data (drvRes + ieDataOffset) ieLen
  let scanChBucket ← loadNat data (drvRes + scanChBucketOffset) 4
  let _ ← loadCString data (drvRes + 8)
  .ok ⟨result, ieData, scanChBucket⟩

/-- `wifi_handle_full_scan_event`: what the handler is called with, if it is.  `drv_res` is `nla_data` of what the
vendor data begin with. -/
def wifiHandleFullScanEvent (ev : GscanEvent) : Except Fault (Option FullScanReport) :=
  match ev.vendorData with
  | none => .ok none
  | some data =>
    if data.length < gscanFullResultSize ∨ ev.eventId ≠ gscanEventFullScanResults then .ok none
    else do
      let ieLength ← loadNat data (nlaHdrLen + ieLengthOffset) 4
      if data.length < min maxProbeRespIeLen ieLength + ieDataOffset ∨ ev.malloc = false then .ok none
      else do
        let report ← readFullScan data nlaHdrLen (min maxProbeRespIeLen ieLength)
        .ok (if ev.handler then some report else none)

/-- The number of bytes of the information elements, with its ceiling. -/
def fullScanIeLen (data : List UInt8) : ℕ := min maxProbeRespIeLen (natAt data (nlaHdrLen + ieLengthOffset) 4)

/-- The bytes of the information elements behind the fixed part. -/
def fullScanIes (data : List UInt8) : List UInt8 := slice data (nlaHdrLen + ieDataOffset) (fullScanIeLen data)

/-- The information elements lie in the data. -/
def FullScanFits (data : List UInt8) : Prop := nlaHdrLen + ieDataOffset + fullScanIeLen data ≤ data.length

namespace GscanEvent

/-- What is asked: only bytes of the data are read, a result is reported with its information elements, and an event
that is too short for them is dropped. -/
def FullScanRight (ev : GscanEvent) : Prop :=
  ∃ out, wifiHandleFullScanEvent ev = .ok out
    ∧ (∀ report, out = some report →
        ∃ data, ev.vendorData = some data ∧ FullScanFits data ∧ report.ieData = fullScanIes data)
    ∧ ∀ data, ev.vendorData = some data → ¬ FullScanFits data → out = none

/-- The event passes the checks of the code. -/
structure Passes (ev : GscanEvent) (data : List UInt8) : Prop where
  vendorData_eq : ev.vendorData = some data
  size_le : gscanFullResultSize ≤ data.length
  eventId_eq : ev.eventId = gscanEventFullScanResults
  ies_le : fullScanIeLen data + ieDataOffset ≤ data.length
  memory : ev.malloc = true

variable {ev : GscanEvent} {data : List UInt8}

lemma reads_fullScan (data : List UInt8) :
    Reads (readFullScan data nlaHdrLen (fullScanIeLen data))
      (nlaHdrLen + ieDataOffset + fullScanIeLen data ≤ data.length ∧ 0 ∈ data.drop (nlaHdrLen + 8))
      ⟨scanResultAt data nlaHdrLen, fullScanIes data, natAt data (nlaHdrLen + scanChBucketOffset) 4⟩ := by
  refine Reads.congr ((reads_convertToHalResult _ _).bind <| (reads_load _ _ _).bind <| (reads_loadNat _ _ _).bind <|
    (reads_loadCString _ _).map _) ?_
  unfold nlaHdrLen ieDataOffset scanChBucketOffset
  constructor
  · rintro ⟨-, hies, -, hnul⟩
    exact ⟨hies, hnul⟩
  · rintro ⟨hies, hnul⟩
    exact ⟨by omega, hies, by omega, hnul⟩

lemma loadNat_ieLength (h : gscanFullResultSize ≤ data.length) :
    loadNat data (nlaHdrLen + ieLengthOffset) 4 = .ok (natAt data (nlaHdrLen + ieLengthOffset) 4) := by
  refine (reads_loadNat data _ 4).eq_ok ?_
  unfold gscanFullResultSize at h
  unfold nlaHdrLen ieLengthOffset
  omega

lemma Passes.handle_eq (h : ev.Passes data) :
    wifiHandleFullScanEvent ev
      = readFullScan data nlaHdrLen (fullScanIeLen data) >>= fun report =>
          .ok (if ev.handler then some report else none) := by
  have hchecked : ¬ (data.length < gscanFullResultSize ∨ ev.eventId ≠ gscanEventFullScanResults) :=
    not_or.mpr ⟨Nat.not_lt.mpr h.size_le, not_not.mpr h.eventId_eq⟩
  have hfits : ¬ (data.length < fullScanIeLen data + ieDataOffset ∨ ev.malloc = false) :=
    not_or.mpr ⟨Nat.not_lt.mpr h.ies_le, by simp [h.memory]⟩
  unfold wifiHandleFullScanEvent
  rw [h.vendorData_eq]
  dsimp only
  rw [if_neg hchecked, loadNat_ieLength h.size_le]
  exact if_neg hfits

lemma handle_eq_of_not_passes (h : ∀ data, ¬ ev.Passes data) : wifiHandleFullScanEvent ev = .ok none := by
  unfold wifiHandleFullScanEvent
  cases hdata : ev.vendorData with
  | none => rfl
  | some data =>
    dsimp only
    by_cases hchecked : data.length < gscanFullResultSize ∨ ev.eventId ≠ gscanEventFullScanResults
    · exact if_pos hchecked
    · rw [if_neg hchecked]
      rw [not_or, Nat.not_lt, not_not] at hchecked
      rw [loadNat_ieLength hchecked.1]
      refine if_pos ?_
      by_contra hfits
      rw [not_or, Nat.not_lt, Bool.not_eq_false] at hfits
      exact h data ⟨hdata, hchecked.1, hchecked.2, hfits.1, hfits.2⟩

/-- **Full scan events.**  Only bytes of the vendor data are read, and what is reported is right, iff in an event that
passes the checks of the code the information elements end inside the data also if the attribute header is counted, and
there is a NUL somewhere behind the beginning of the SSID. -/
theorem fullScan_right_iff (ev : GscanEvent) :
    ev.FullScanRight ↔ ∀ data, ev.Passes data → FullScanFits data ∧ 0 ∈ data.drop (nlaHdrLen + 8) := by
  constructor
  · rintro ⟨out, hout, -⟩ data hpass
    rw [hpass.handle_eq] at hout
    obtain ⟨report, hreport, -⟩ := bind_eq_ok.mp hout
    exact (reads_fullScan data).fits_of ⟨report, hreport⟩
  · intro h
    by_cases hpass : ∃ data, ev.Passes data
    · obtain ⟨data, hpass⟩ := hpass
      have hfits := h data hpass
      refine ⟨_, by rw [hpass.handle_eq, (reads_fullScan data).eq_ok hfits]; rfl, fun report hreport => ?_, ?_⟩
      · refine ⟨data, hpass.vendorData_eq, hfits.1, ?_⟩
        split_ifs at hreport
        rw [← Option.some.inj hreport]
      · intro data' hdata' hnot
        cases hpass.vendorData_eq.symm.trans hdata'
        exact absurd hfits.1 hnot
    · refine ⟨none, handle_eq_of_not_passes (not_exists.mp hpass), fun report hreport => ?_, fun _ _ _ => rfl⟩
      exact absurd hreport.symm (Option.some_ne_none report)

/-- **The defect**: of eight bytes of information elements only four are in the data. -/
theorem fullScan_reads_past_data :
    wifiHandleFullScanEvent
        ⟨some (List.replicate 96 0 ++ [8, 0, 0, 0] ++ List.replicate 4 7), 3, true, true⟩ = .error (.load 100 8 104)
      ∧ ¬ FullScanRight ⟨some (List.replicate 96 0 ++ [8, 0, 0, 0] ++ List.replicate 4 7), 3, true, true⟩ := by
  refine (and_iff_left_of_imp fun hfault ⟨out, hout, _⟩ => ?_).mpr (by decide +kernel)
  rw [hfault] at hout
  cases hout

end GscanEvent

/-! ## Passpoint matches -/

/-- `offsetof(wifi_anqp_gas_resp, data_len)`. -/
def gasDataLenOffset : ℕ := 6

/-- `offsetof(wifi_anqp_gas_resp, data)`. -/
def gasDataOffset : ℕ := 8

/-- What `on_passpoint_network_found` is given.  `anqp` is a pointer into the vendor data. -/
structure AnqpReport where
  networkId : ℤ
  result : WifiScanResult
  anqpLen : ℕ
  anqp : ℕ
deriving DecidableEq

/-- The reads of `AnqpoConfigureCommand::handleEvent`.  A pointer beyond the data is outside, wherever it may wrap
to. -/
def readAnqp (data : List UInt8) : Except Fault AnqpReport := do
  let result ← convertToHalResult data 0
  let ieLength ← loadNat data ieLengthOffset 4
  let dataLen ← loadNat data (ieDataOffset + ieLength + gasDataLenOffset) 2
  let networkId ← loadInt data (ieDataOffset + ieLength + (gasDataOffset + dataLen)) 4
  .ok ⟨networkId, result, gasDataOffset + dataLen, ieDataOffset + ieLength⟩

/-- `AnqpoConfigureCommand::handleEvent`: what the handler is called with, if it is. -/
def handleAnqpoEvent (ev : GscanEvent) : Except Fault (Option AnqpReport) :=
  match ev.vendorData with
  | none => .ok none
  | some data =>
    if data.length < scanResultSize ∨ ev.malloc = false then .ok none
    else do
      let report ← readAnqp data
      .ok (if ev.handler then some report else none)

/-- The offset of the GAS response, which the information elements end at. -/
def gasOffset (data : List UInt8) : ℕ := ieDataOffset + natAt data ieLengthOffset 4

def gasLen (data : List UInt8) : ℕ := gasDataOffset + natAt data (gasOffset data + gasDataLenOffset) 2

/-- The fixed part, the header of the GAS response, its data and the network id lie in the data. -/
structure AnqpFits (data : List UInt8) : Prop where
  fixed : ieDataOffset ≤ data.length
  header : gasOffset data + gasDataOffset ≤ data.length
  networkId : gasOffset data + gasLen data + 4 ≤ data.length

namespace GscanEvent

/-- What is asked: only bytes of the data are read, what is handed on lies in them, and an event in which not everything
does is dropped. -/
def AnqpoRight (ev : GscanEvent) : Prop :=
  ∃ out, handleAnqpoEvent ev = .ok out
    ∧ (∀ report, out = some report → ∃ data, ev.vendorData = some data ∧ report.anqp + report.anqpLen ≤ data.length)
    ∧ ∀ data, ev.vendorData = some data → ¬ AnqpFits data → out = none

variable {ev : GscanEvent} {data : List UInt8}

lemma reads_anqp (data : List UInt8) :
    Reads (readAnqp data) (AnqpFits data)
      ⟨intAt data (gasOffset data + gasLen data) 4, scanResultAt data 0, gasLen data, gasOffset data⟩ := by
  refine Reads.congr ((reads_convertToHalResult _ _).bind <| (reads_loadNat _ _ _).bind <| (reads_loadNat _ _ _).bind <|
    (reads_loadInt _ _ _).map _) ?_
  constructor
  · rintro ⟨-, hfixed, hheader, hid⟩
    exact ⟨hfixed, hheader, hid⟩
  · rintro ⟨hfixed, hheader, hid⟩
    unfold ieDataOffset at hfixed
    exact ⟨by omega, hfixed, hheader, hid⟩

lemma anqpoRight_of_dropped (hdropped : handleAnqpoEvent ev = .ok none) : ev.AnqpoRight :=
  ⟨none, hdropped, fun report hreport => absurd hreport.symm (Option.some_ne_none report), fun _ _ _ => rfl⟩

/-- An event that passes the check is handled rightly iff the data hold all that is read. -/
lemma anqpoRight_iff_fits (hdata : ev.vendorData = some data)
    (hpassed : ¬ (data.length < scanResultSize ∨ ev.malloc = false)) : ev.AnqpoRight ↔ AnqpFits data := by
  have hread : handleAnqpoEvent ev
      = readAnqp data >>= fun report => .ok (if ev.handler then some report else none) := by
    rw [handleAnqpoEvent, hdata]
    exact if_neg hpassed
  constructor
  · rintro ⟨out, hout, -⟩
    rw [hread] at hout
    obtain ⟨report, hreport, -⟩ := bind_eq_ok.mp hout
    exact (reads_anqp data).fits_of ⟨report, hreport⟩
  · intro hfits
    refine ⟨_, by rw [hread, (reads_anqp data).eq_ok hfits]; rfl, fun report hreport => ?_, ?_⟩
    · refine ⟨data, hdata, ?_⟩
      split_ifs at hreport
      have hid := hfits.networkId
      rw [← Option.some.inj hreport]
      dsimp only
      omega
    · intro data' hdata' hnot
      cases hdata.symm.trans hdata'
      exact absurd hfits hnot

/-- **Passpoint events.**  What is read and handed on lies in the vendor data, and every other event is dropped, iff an
event that is as long as a `wifi_scan_result`, and for which there is memory, holds all of it. -/
theorem anqpo_right_iff (ev : GscanEvent) :
    ev.AnqpoRight ↔
      ∀ data, ev.vendorData = some data → scanResultSize ≤ data.length → ev.malloc = true → AnqpFits data := by
  cases hdata : ev.vendorData with
  | none => exact iff_of_true (anqpoRight_of_dropped (by rw [handleAnqpoEvent, hdata])) (by simp)
  | some data =>
    by_cases hchecked : data.length < scanResultSize ∨ ev.malloc = false
    · refine iff_of_true (anqpoRight_of_dropped ?_) ?_
      · rw [handleAnqpoEvent, hdata]
        exact if_pos hchecked
      · intro data' hdata' hsize hmemory
        cases hdata'
        exact absurd hchecked (not_or.mpr ⟨Nat.not_lt.mpr hsize, by simp [hmemory]⟩)
    · rw [anqpoRight_iff_fits hdata hchecked]
      rw [not_or, Nat.not_lt, Bool.not_eq_false] at hchecked
      constructor
      · intro hfits data' hdata' _ _
        cases hdata'
        exact hfits
      · intro h
        exact h data rfl hchecked.1 hchecked.2

/-- **The defect**: an event of 88 bytes passes the check, and the length of the information elements is read behind
it. -/
theorem anqpo_reads_past_data :
    handleAnqpoEvent ⟨some (List.replicate 88 0), 9, true, true⟩ = .error (.load 92 4 88)
      ∧ ¬ AnqpoRight ⟨some (List.replicate 88 0), 9, true, true⟩ := by
  refine (and_iff_left_of_imp fun hfault ⟨out, hout, _⟩ => ?_).mpr (by decide +kernel)
  cases hout

end GscanEvent

end Hal
