import DeviceHal.Core.Bytes
import DeviceHal.Ril.Types
import DeviceHal.Ril.CellIdentity

/-!
# Registration state of voice and data

The vendor library answers a registration-state request with an array of strings (version 14 and before)
or with a structure.  The two handlers turn the answer into a result with a radio technology and a cell
identity, which is one vector per kind of cell of which at most one is filled.

Out of an array of strings the handlers read fixed positions.  Fewer than four entries are refused; what
stands further back is guarded by `numStrings > 4`, whichever position it has.  A read past the end of the
array is `none` here.

The kind of the cell is decided from the string of the technology, not from the technology in the result.
The two differ where the data handler replaces a technology of the vendor's own by HSPAP.

* `voiceOfStrings_eq_some`, `dataOfStrings_eq_some` — what is read decides whether there is a result, and
  which cell identity it has.
* **`regState_reads_within_iff`** — the counts of strings for which nothing absent is read and too few are
  answered with the error.
* **`cellIdentity_classifies_iff`** — the answers of which the reported cell identity fits the reported
  technology.
-/

namespace Hal

open Option

/-! ## An array of strings -/

/-- `response` and `responseLen` read as strings: `numStrings` pointers, `NULL` is `none`.  They are 4 bytes
each in an address space of 32 bits. -/
structure StringArray where
  entries : List (Option (List UInt8))
  length_lt : entries.length < 2 ^ 30

namespace StringArray

/-- `int numStrings = responseLen / sizeof(char *)`. -/
def numStrings (resp : StringArray) : ℤ := intOfSize resp.entries.length

/-- `resp[index]`, `none` past the end of the array. -/
def entry (resp : StringArray) (index : ℕ) : Option (Option (List UInt8)) := resp.entries[index]?

variable {resp : StringArray}

theorem numStrings_eq (resp : StringArray) : resp.numStrings = resp.entries.length := by
  have h := resp.length_lt
  exact intOfSize_eq (by omega)

theorem entry_eq_some {index : ℕ} (h : (index : ℤ) < resp.numStrings) : ∃ s, resp.entry index = some s := by
  rw [numStrings_eq] at h
  exact ⟨_, List.getElem?_eq_getElem (Int.ofNat_lt.mp h)⟩

theorem lt_of_entry {index : ℕ} {s : Option (List UInt8)} (h : resp.entry index = some s) :
    (index : ℤ) < resp.numStrings := by
  obtain ⟨hlt, -⟩ := List.getElem?_eq_some_iff.mp h
  rw [numStrings_eq]
  exact Int.ofNat_lt.mpr hlt

/-- `(numStrings > 4) ? read(resp[index]) : absent`. -/
def entryOr (resp : StringArray) (index : ℕ) (read : Option (List UInt8) → ℤ) (absent : ℤ) : Option ℤ :=
  if resp.numStrings > 4 then (resp.entry index).map read else some absent

variable {index : ℕ}

theorem entryOr_eq_some (read : Option (List UInt8) → ℤ) (absent : ℤ)
    (h : resp.numStrings ≤ 4 ∨ (index : ℤ) < resp.numStrings) : ∃ v, resp.entryOr index read absent = some v := by
  by_cases hn : resp.numStrings > 4
  · obtain ⟨s, hs⟩ := entry_eq_some (h.resolve_left (by omega))
    exact ⟨read s, by rw [entryOr, if_pos hn, hs, map_some]⟩
  · exact ⟨absent, if_neg hn⟩

theorem lt_of_entryOr {read : Option (List UInt8) → ℤ} {absent v : ℤ}
    (h : resp.entryOr index read absent = some v) (hn : 4 < resp.numStrings) : (index : ℤ) < resp.numStrings := by
  rw [entryOr, if_pos hn, map_eq_some_iff] at h
  obtain ⟨s, hs, -⟩ := h
  exact lt_of_entry hs

end StringArray

def convertResponseStringEntryToInt (response : StringArray) (index : ℕ) (numStrings : ℤ) : Option ℤ :=
  if numStrings > index then
    (response.entry index).map fun s =>
      match s with
      | some s => strtol 16 s
      | none => -1
  else some (-1)

/-- The check against the count keeps the read inside. -/
theorem convertResponseStringEntryToInt_eq_some {response : StringArray} {numStrings : ℤ}
    (h : numStrings ≤ response.numStrings) (index : ℕ) :
    ∃ v, convertResponseStringEntryToInt response index numStrings = some v := by
  unfold convertResponseStringEntryToInt
  by_cases hi : numStrings > index
  · obtain ⟨s, hs⟩ := StringArray.entry_eq_some (show (index : ℤ) < response.numStrings by omega)
    rw [if_pos hi, hs]
    exact ⟨_, rfl⟩
  · rw [if_neg hi]
    exact ⟨_, rfl⟩

/-- The switch of `fillCellIdentityFromVoiceRegStateResponseString`. -/
def voiceCell (numStrings : ℤ) (response : StringArray) (unset : RilCellIdentity) : Option RilCellIdentity :=
  let convert := fun index => convertResponseStringEntryToInt response index numStrings
  match unset.cellInfoType with
  | .gsm => do
    let lac ← convert 1
    let cid ← convert 2
    some { unset with cellIdentityGsm := { unset.cellIdentityGsm with lac := lac, cid := cid } }
  | .wcdma => do
    let lac ← convert 1
    let cid ← convert 2
    let psc ← convert 14
    some { unset with
      cellIdentityWcdma := { unset.cellIdentityWcdma with lac := lac, cid := cid, psc := psc } }
  | .tdScdma => do
    let lac ← convert 1
    let cid ← convert 2
    some { unset with cellIdentityTdscdma := { unset.cellIdentityTdscdma with lac := lac, cid := cid } }
  | .cdma => do
    let basestationId ← convert 4
    let longitude ← convert 5
    let latitude ← convert 6
    let systemId ← convert 8
    let networkId ← convert 9
    some { unset with
      cellIdentityCdma := ⟨networkId, systemId, basestationId, longitude, latitude⟩ }
  | .lte => do
    let tac ← convert 1
    let ci ← convert 2
    some { unset with cellIdentityLte := { unset.cellIdentityLte with tac := tac, ci := ci } }
  | _ => some unset

/-- The switch of `fillCellIdentityFromDataRegStateResponseString`. -/
def dataCell (numStrings : ℤ) (response : StringArray) (unset : RilCellIdentity) : Option RilCellIdentity :=
  let convert := fun index => convertResponseStringEntryToInt response index numStrings
  match unset.cellInfoType with
  | .gsm => do
    let lac ← convert 1
    let cid ← convert 2
    some { unset with cellIdentityGsm := { unset.cellIdentityGsm with lac := lac, cid := cid } }
  | .wcdma => do
    let lac ← convert 1
    let cid ← convert 2
    some { unset with cellIdentityWcdma := { unset.cellIdentityWcdma with lac := lac, cid := cid } }
  | .tdScdma => do
    let lac ← convert 1
    let cid ← convert 2
    some { unset with cellIdentityTdscdma := { unset.cellIdentityTdscdma with lac := lac, cid := cid } }
  | .lte => do
    let tac ← convert 6
    let pci ← convert 7
    let ci ← convert 8
    some { unset with cellIdentityLte := { unset.cellIdentityLte with tac := tac, pci := pci, ci := ci } }
  | _ => some unset

/-- The two functions differ in their switch. -/
def fillCellIdentityFrom (cell : ℤ → StringArray → RilCellIdentity → Option RilCellIdentity) (numStrings : ℤ)
    (response : StringArray) : Option CellIdentity := do
  let rat ← response.entry 3
  let ril ← cell numStrings response (.unset (getCellInfoTypeRadioTechnology rat))
  some (fillCellIdentityResponse ril)

def fillCellIdentityFromVoiceRegStateResponseString : ℤ → StringArray → Option CellIdentity :=
  fillCellIdentityFrom voiceCell

def fillCellIdentityFromDataRegStateResponseString : ℤ → StringArray → Option CellIdentity :=
  fillCellIdentityFrom dataCell

section Cells

variable {numStrings : ℤ} {response : StringArray}

/-- The fields of a cell are read inside the array, and its type stays what it was. -/
theorem voiceCell_eq_some (h : numStrings ≤ response.numStrings) (unset : RilCellIdentity) :
    ∃ ril, voiceCell numStrings response unset = some ril ∧ ril.cellInfoType = unset.cellInfoType := by
  choose v hv using convertResponseStringEntryToInt_eq_some h
  cases htype : unset.cellInfoType <;> simp [voiceCell, htype, hv]

theorem dataCell_eq_some (h : numStrings ≤ response.numStrings) (unset : RilCellIdentity) :
    ∃ ril, dataCell numStrings response unset = some ril ∧ ril.cellInfoType = unset.cellInfoType := by
  choose v hv using convertResponseStringEntryToInt_eq_some h
  cases htype : unset.cellInfoType <;> simp [dataCell, htype, hv]

theorem fillCellIdentityFrom_eq_some {cell : ℤ → StringArray → RilCellIdentity → Option RilCellIdentity}
    {rat : Option (List UInt8)} (hrat : response.entry 3 = some rat)
    (hcell : ∀ unset, ∃ ril, cell numStrings response unset = some ril ∧ ril.cellInfoType = unset.cellInfoType) :
    ∃ ril, fillCellIdentityFrom cell numStrings response = some (fillCellIdentityResponse ril) ∧
      ril.cellInfoType = getCellInfoTypeRadioTechnology rat := by
  obtain ⟨ril, hril, htype⟩ := hcell (.unset (getCellInfoTypeRadioTechnology rat))
  exact ⟨ril, by simp [fillCellIdentityFrom, hrat, hril], htype⟩

end Cells

/-! ## The results -/

structure VoiceRegStateResult where
  regState : ℤ
  rat : ℤ
  cssSupported : Bool
  roamingIndicator : ℤ
  systemIsInPrl : ℤ
  defaultRoamingIndicator : ℤ
  reasonForDenial : ℤ
  cellIdentity : CellIdentity

structure DataRegStateResult where
  regState : ℤ
  rat : ℤ
  reasonDataDenied : ℤ
  maxDataCalls : ℤ
  cellIdentity : CellIdentity

/-- `VoiceRegStateResult voiceRegResponse = {}`. -/
def VoiceRegStateResult.zero : VoiceRegStateResult := ⟨0, 0, false, 0, 0, 0, 0, .empty .none⟩

/-- `DataRegStateResult dataRegResponse = {}`. -/
def DataRegStateResult.zero : DataRegStateResult := ⟨0, 0, 0, 0, .empty .none⟩

/-- `RIL_VoiceRegistrationStateResponse`. -/
structure RilVoiceRegistrationState where
  regState : ℤ
  rat : ℤ
  cssSupported : ℤ
  roamingIndicator : ℤ
  systemIsInPrl : ℤ
  defaultRoamingIndicator : ℤ
  reasonForDenial : ℤ
  cellIdentity : RilCellIdentity

/-- `RIL_DataRegistrationStateResponse`. -/
structure RilDataRegistrationState where
  regState : ℤ
  rat : ℤ
  reasonDataDenied : ℤ
  maxDataCalls : ℤ
  cellIdentity : RilCellIdentity

/-- The voice result out of four strings or more. -/
def voiceOfStrings (resp : StringArray) : Option VoiceRegStateResult := do
  let regState ← resp.entry 0
  let rat ← resp.entry 3
  let cssSupported ← resp.entryOr 7 (atoiNullHandledDef · 0) 0
  let roamingIndicator ← resp.entryOr 10 atoiNullHandled (-1)
  let systemIsInPrl ← resp.entryOr 11 (atoiNullHandledDef · 0) 0
  let defaultRoamingIndicator ← resp.entryOr 12 (atoiNullHandledDef · 0) 0
  let reasonForDenial ← resp.entryOr 13 (atoiNullHandledDef · 0) 0
  let cellIdentity ← fillCellIdentityFromVoiceRegStateResponseString resp.numStrings resp
  some {
    regState := atoiNullHandledDef regState 4
    rat := atoiNullHandled rat
    cssSupported := cssSupported ≠ 0
    roamingIndicator := roamingIndicator
    systemIsInPrl := systemIsInPrl
    defaultRoamingIndicator := defaultRoamingIndicator
    reasonForDenial := reasonForDenial
    cellIdentity := cellIdentity }

/-- `MTK_HARDWARE`: a technology of the vendor's own becomes HSPAP. -/
def remapTechnology (mtkHardware : Bool) (rat : ℤ) : ℤ :=
  if mtkHardware ∧ rat ≥ 128 then 15 else rat

/-- The data result out of four strings or more. -/
def dataOfStrings (mtkHardware : Bool) (resp : StringArray) : Option DataRegStateResult := do
  let regState ← resp.entry 0
  let rat ← resp.entry 3
  let reasonDataDenied ← resp.entryOr 4 atoiNullHandled (-1)
  let maxDataCalls ← resp.entryOr 5 (atoiNullHandledDef · 1) 1
  let cellIdentity ← fillCellIdentityFromDataRegStateResponseString
    (if resp.numStrings < 11 then (if resp.numStrings < 6 then 4 else 6) else 11) resp
  some {
    regState := atoiNullHandledDef regState 4
    rat := remapTechnology mtkHardware (atoiNullHandledDef rat 0)
    reasonDataDenied := reasonDataDenied
    maxDataCalls := maxDataCalls
    cellIdentity := cellIdentity }

def voiceOfRecord (state : RilVoiceRegistrationState) : VoiceRegStateResult where
  regState := state.regState
  rat := state.rat
  cssSupported := state.cssSupported ≠ 0
  roamingIndicator := state.roamingIndicator
  systemIsInPrl := state.systemIsInPrl
  defaultRoamingIndicator := state.defaultRoamingIndicator
  reasonForDenial := state.reasonForDenial
  cellIdentity := fillCellIdentityResponse state.cellIdentity

def dataOfRecord (state : RilDataRegistrationState) : DataRegStateResult where
  regState := state.regState
  rat := state.rat
  reasonDataDenied := state.reasonDataDenied
  maxDataCalls := state.maxDataCalls
  cellIdentity := fillCellIdentityResponse state.cellIdentity

/-! ## The handlers -/

/-- What a `response` that is not `NULL` points to: as an array of strings, and, where `responseLen` is
the size of it, as the structure. -/
structure RegResponse (ρ : Type) where
  strings : StringArray
  record : Option ρ

/-- The two handlers do the same around their own decoding. -/
def regStateResponse {ρ σ : Type} (zero : σ) (ofStrings : StringArray → Option σ) (ofRecord : ρ → σ)
    (version : ℤ) (info : RadioResponseInfo) (e : RilErrno) (response : Option (RegResponse ρ)) :
    Option (RadioResponseInfo × σ) :=
  match response with
  | none => some (info.refuse e, zero)
  | some response =>
    if version ≤ 14 then
      if response.strings.numStrings < 4 then some (info.refuse e, zero)
      else (ofStrings response.strings).map fun result => (info, result)
    else
      match response.record with
      | none => some (info.refuse e, zero)
      | some record => some (info, ofRecord record)

/-- What the client is told.  `none` stands for a handler that has read outside the vendor's array. -/
def getVoiceRegistrationStateResponse (version serial : ℤ) (responseType : ResponseType) (e : RilErrno)
    (response : Option (RegResponse RilVoiceRegistrationState)) : Option (RadioResponseInfo × VoiceRegStateResult) :=
  regStateResponse .zero voiceOfStrings voiceOfRecord version
    (populateResponseInfo serial responseType e) e response

@[inherit_doc getVoiceRegistrationStateResponse]
def getDataRegistrationStateResponse (mtkHardware : Bool) (version serial : ℤ)
    (responseType : ResponseType) (e : RilErrno) (response : Option (RegResponse RilDataRegistrationState)) :
    Option (RadioResponseInfo × DataRegStateResult) :=
  regStateResponse .zero (dataOfStrings mtkHardware) dataOfRecord version
    (populateResponseInfo serial responseType e) e response

/-! ## What decoding the strings reads -/

section Strings

variable {resp : StringArray}

/-- The string of the technology, once there are four. -/
theorem exists_technology (h4 : 4 ≤ resp.numStrings) : ∃ rat, resp.entry 3 = some rat :=
  StringArray.entry_eq_some (by omega)

/-- **Voice: with four strings or fourteen there is a result**, its cell classified by the string its
technology is read from. -/
theorem voiceOfStrings_eq_some (h4 : 4 ≤ resp.numStrings)
    (hn : resp.numStrings = 4 ∨ 14 ≤ resp.numStrings) {rat : Option (List UInt8)} (hrat : resp.entry 3 = some rat) :
    ∃ r ril, voiceOfStrings resp = some r ∧ r.rat = atoiNullHandled rat ∧
      r.cellIdentity = fillCellIdentityResponse ril ∧
      ril.cellInfoType = getCellInfoTypeRadioTechnology rat := by
  have hread : ∀ (index : ℕ) (read : Option (List UInt8) → ℤ) (absent : ℤ), index < 14 →
      ∃ v, resp.entryOr index read absent = some v := by
    intro index read absent hi
    exact StringArray.entryOr_eq_some read absent (by omega)
  obtain ⟨s₀, h₀⟩ := StringArray.entry_eq_some (show ((0 : ℕ) : ℤ) < resp.numStrings by omega)
  obtain ⟨v₇, h₇⟩ := hread 7 (atoiNullHandledDef · 0) 0 (by decide)
  obtain ⟨v₁₀, h₁₀⟩ := hread 10 atoiNullHandled (-1) (by decide)
  obtain ⟨v₁₁, h₁₁⟩ := hread 11 (atoiNullHandledDef · 0) 0 (by decide)
  obtain ⟨v₁₂, h₁₂⟩ := hread 12 (atoiNullHandledDef · 0) 0 (by decide)
  obtain ⟨v₁₃, h₁₃⟩ := hread 13 (atoiNullHandledDef · 0) 0 (by decide)
  obtain ⟨ril, hril, htype⟩ := fillCellIdentityFrom_eq_some hrat (voiceCell_eq_some (Int.le_refl resp.numStrings))
  refine ⟨⟨atoiNullHandledDef s₀ 4, atoiNullHandled rat, v₇ ≠ 0, v₁₀, v₁₁, v₁₂, v₁₃,
    fillCellIdentityResponse ril⟩, ril, ?_, rfl, rfl, htype⟩
  simp only [voiceOfStrings, fillCellIdentityFromVoiceRegStateResponseString, h₀, hrat, h₇, h₁₀, h₁₁, h₁₂, h₁₃, hril]
  rfl

/-- **Voice: between five and thirteen strings the last field lies outside.** -/
theorem voiceOfStrings_eq_none (h4 : 4 < resp.numStrings) (h14 : resp.numStrings < 14) :
    voiceOfStrings resp = none := by
  rw [eq_none_iff_forall_ne_some]
  intro r hr
  simp only [voiceOfStrings, bind_eq_bind, bind_eq_some_iff] at hr
  obtain ⟨_, -, _, -, _, -, _, -, _, -, _, -, _, h₁₃, -⟩ := hr
  have := StringArray.lt_of_entryOr h₁₃ h4
  omega

theorem dataOfStrings_eq_some (mtkHardware : Bool) (h4 : 4 ≤ resp.numStrings) (hn : resp.numStrings ≠ 5)
    {rat : Option (List UInt8)} (hrat : resp.entry 3 = some rat) :
    ∃ r ril, dataOfStrings mtkHardware resp = some r ∧
      r.rat = remapTechnology mtkHardware (atoiNullHandledDef rat 0) ∧
      r.cellIdentity = fillCellIdentityResponse ril ∧
      ril.cellInfoType = getCellInfoTypeRadioTechnology rat := by
  obtain ⟨s₀, h₀⟩ := StringArray.entry_eq_some (show ((0 : ℕ) : ℤ) < resp.numStrings by omega)
  obtain ⟨v₄, h₄⟩ := StringArray.entryOr_eq_some atoiNullHandled (-1)
    (show resp.numStrings ≤ 4 ∨ ((4 : ℕ) : ℤ) < resp.numStrings by omega)
  obtain ⟨v₅, h₅⟩ := StringArray.entryOr_eq_some (atoiNullHandledDef · 1) 1
    (show resp.numStrings ≤ 4 ∨ ((5 : ℕ) : ℤ) < resp.numStrings by omega)
  -- the count the cell is filled with is rounded down to 4, 6 or 11
  have hle : (if resp.numStrings < 11 then (if resp.numStrings < 6 then 4 else 6) else 11)
      ≤ resp.numStrings := by
    split_ifs <;> omega
  obtain ⟨ril, hril, htype⟩ := fillCellIdentityFrom_eq_some hrat (dataCell_eq_some hle)
  refine ⟨⟨atoiNullHandledDef s₀ 4, remapTechnology mtkHardware (atoiNullHandledDef rat 0), v₄, v₅,
    fillCellIdentityResponse ril⟩, ril, ?_, rfl, rfl, htype⟩
  simp only [dataOfStrings, fillCellIdentityFromDataRegStateResponseString, h₀, hrat, h₄, h₅, hril]
  rfl

/-- **Data: of five strings the sixth is read.** -/
theorem dataOfStrings_eq_none (mtkHardware : Bool) (hn : resp.numStrings = 5) :
    dataOfStrings mtkHardware resp = none := by
  rw [eq_none_iff_forall_ne_some]
  intro r hr
  simp only [dataOfStrings, bind_eq_bind, bind_eq_some_iff] at hr
  obtain ⟨_, -, _, -, _, -, _, h₅, -⟩ := hr
  have := StringArray.lt_of_entryOr h₅ (by omega)
  omega

/-- The counts for which there is a voice result at all. -/
theorem exists_voiceOfStrings_iff (h4 : 4 ≤ resp.numStrings) :
    (∃ r, voiceOfStrings resp = some r) ↔ resp.numStrings = 4 ∨ 14 ≤ resp.numStrings := by
  constructor
  · rintro ⟨r, hr⟩
    by_contra hn
    rw [voiceOfStrings_eq_none (by omega) (by omega)] at hr
    cases hr
  · intro hn
    obtain ⟨rat, hrat⟩ := exists_technology h4
    obtain ⟨r, ril, hr, -⟩ := voiceOfStrings_eq_some h4 hn hrat
    exact ⟨r, hr⟩

theorem exists_dataOfStrings_iff (mtkHardware : Bool) (h4 : 4 ≤ resp.numStrings) :
    (∃ r, dataOfStrings mtkHardware resp = some r) ↔ resp.numStrings ≠ 5 := by
  constructor
  · rintro ⟨r, hr⟩ hn
    rw [dataOfStrings_eq_none mtkHardware hn] at hr
    cases hr
  · intro hn
    obtain ⟨rat, hrat⟩ := exists_technology h4
    obtain ⟨r, ril, hr, -⟩ := dataOfStrings_eq_some mtkHardware h4 hn hrat
    exact ⟨r, hr⟩

end Strings

/-! ## Whole responses -/

section Handlers

variable {ρ σ : Type} {zero : σ} {ofStrings : StringArray → Option σ} {ofRecord : ρ → σ}
  {version serial : ℤ} {responseType : ResponseType} {e : RilErrno}

/-- The handler told the client something, having read only what is there, and it told of an invalid
response if there were too few strings. -/
def ReadsWithin (strings : StringArray) (outcome : Option (RadioResponseInfo × σ)) : Prop :=
  ∃ info result, outcome = some (info, result) ∧
    (strings.numStrings < 4 → info.error = .invalidResponse)

/-- **What the common part contributes**: with too few strings it is the error the vendor came with that
decides, with enough it is the decoding. -/
theorem readsWithin_iff {info : RadioResponseInfo} (hv : version ≤ 14) (response : RegResponse ρ) :
    ReadsWithin response.strings (regStateResponse zero ofStrings ofRecord version info e (some response)) ↔
      (response.strings.numStrings < 4 ∧ (info.refuse e).error = .invalidResponse) ∨
      (4 ≤ response.strings.numStrings ∧ ∃ r, ofStrings response.strings = some r) := by
  by_cases h4 : response.strings.numStrings < 4
  · have hfew : ¬ 4 ≤ response.strings.numStrings := Int.not_le.mpr h4
    simp [ReadsWithin, regStateResponse, hv, h4, hfew]
  · have henough : 4 ≤ response.strings.numStrings := Int.not_lt.mp h4
    simp [ReadsWithin, regStateResponse, hv, h4, henough]

/-- The client is told a result with the property. -/
def Reported (P : σ → Prop) (outcome : Option (RadioResponseInfo × σ)) : Prop :=
  ∃ info result, outcome = some (info, result) ∧ P result

/-- The same for a property of the result that a result never filled in has. -/
theorem reported_iff {P : σ → Prop} (hzero : P zero) {info : RadioResponseInfo} (response : Option (RegResponse ρ)) :
    Reported P (regStateResponse zero ofStrings ofRecord version info e response) ↔
      ∀ x, response = some x →
        (version ≤ 14 → 4 ≤ x.strings.numStrings → ∃ r, ofStrings x.strings = some r ∧ P r) ∧
        (14 < version → ∀ record, x.record = some record → P (ofRecord record)) := by
  cases response with
  | none => simp [Reported, regStateResponse, hzero]
  | some x =>
    by_cases hv : version ≤ 14
    · have hold : ¬ 14 < version := Int.not_lt.mpr hv
      by_cases h4 : x.strings.numStrings < 4
      · have hfew : ¬ 4 ≤ x.strings.numStrings := Int.not_le.mpr h4
        simp [Reported, regStateResponse, hv, hold, h4, hfew, hzero]
      · have henough : 4 ≤ x.strings.numStrings := Int.not_lt.mp h4
        simp [Reported, regStateResponse, hv, hold, h4, henough]
    · have hnew : 14 < version := Int.not_le.mp hv
      cases hrecord : x.record with
      | none => simp [Reported, regStateResponse, hv, hrecord, hzero]
      | some record => simp [Reported, regStateResponse, hv, hnew, hrecord]

end Handlers

/-- **Which counts of strings are handled within the array.**  A voice response is read up to its
fourteenth string as soon as it has a fifth, a data response up to its sixth.  Too few strings are an
invalid response unless the vendor has reported an error of its own. -/
theorem regState_reads_within_iff (mtkHardware : Bool) (version serial : ℤ) (hv : version ≤ 14)
    (responseType : ResponseType) (e : RilErrno) (voice : RegResponse RilVoiceRegistrationState)
    (data : RegResponse RilDataRegistrationState) :
    (ReadsWithin voice.strings
        (getVoiceRegistrationStateResponse version serial responseType e (some voice)) ↔
      (voice.strings.numStrings < 4 ∧ (e = .success ∨ e = .invalidResponse)) ∨
      voice.strings.numStrings = 4 ∨ 14 ≤ voice.strings.numStrings) ∧
    (ReadsWithin data.strings
        (getDataRegistrationStateResponse mtkHardware version serial responseType e (some data)) ↔
      (data.strings.numStrings < 4 ∧ (e = .success ∨ e = .invalidResponse)) ∨
      data.strings.numStrings = 4 ∨ 6 ≤ data.strings.numStrings) := by
  constructor
  · rw [getVoiceRegistrationStateResponse, readsWithin_iff hv, refuse_error,
      and_congr_right exists_voiceOfStrings_iff]
    refine or_congr Iff.rfl ?_
    omega
  · rw [getDataRegistrationStateResponse, readsWithin_iff hv, refuse_error,
      and_congr_right (exists_dataOfStrings_iff mtkHardware)]
    refine or_congr Iff.rfl ?_
    omega

/-- Registered at home in UMTS: the state, the area, the cell and the technology. -/
def homeUmts : List (Option (List UInt8)) := [some [49], some [49, 65], some [50, 66], some [51]]

theorem regState_four_strings :
    ReadsWithin ⟨homeUmts, by decide⟩ (getVoiceRegistrationStateResponse 14 7 .solicited .success
      (some ⟨⟨homeUmts, by decide⟩, none⟩)) ∧
    ReadsWithin ⟨homeUmts, by decide⟩ (getDataRegistrationStateResponse true 14 7 .solicited .success
      (some ⟨⟨homeUmts, by decide⟩, none⟩)) := by
  obtain ⟨hvoice, hdata⟩ := regState_reads_within_iff true 14 7 (by decide) .solicited .success
    ⟨⟨homeUmts, by decide⟩, none⟩ ⟨⟨homeUmts, by decide⟩, none⟩
  exact ⟨hvoice.mpr (by decide), hdata.mpr (by decide)⟩

/-- **A fifth string makes both handlers read outside the array**: the voice handler its eighth entry, the
data handler its sixth. -/
theorem regState_five_strings_outside :
    getVoiceRegistrationStateResponse 14 7 .solicited .success
      (some ⟨⟨homeUmts ++ [none], by decide⟩, none⟩) = none ∧
    getDataRegistrationStateResponse true 14 7 .solicited .success
      (some ⟨⟨homeUmts ++ [none], by decide⟩, none⟩) = none := by
  constructor <;> decide

/-! ## The cell identity and the technology -/

/-- The string a technology and a cell type are read from says the same to both. -/
theorem getCellInfoType_eq (rat : Option (List UInt8)) {d : ℤ} (hd : cellInfoTypeOf d = .none) :
    getCellInfoTypeRadioTechnology rat = cellInfoTypeOf (atoiNullHandledDef rat d) := by
  cases rat with
  | none => exact hd.symm
  | some s => rfl

/-- Only a technology that was replaced is classified otherwise. -/
theorem cellInfoTypeOf_remap_iff (mtkHardware : Bool) (rat : ℤ) :
    cellInfoTypeOf rat = cellInfoTypeOf (remapTechnology mtkHardware rat) ↔
      ¬ (mtkHardware = true ∧ 128 ≤ rat) := by
  by_cases h : mtkHardware = true ∧ rat ≥ 128
  · have hother : cellInfoTypeOf rat = .none := by
      simp only [cellInfoTypeOf, RadioTech.gprs, RadioTech.edge, RadioTech.gsm, RadioTech.umts, RadioTech.hsdpa,
        RadioTech.hsupa, RadioTech.hspa, RadioTech.hspap, RadioTech.is95a, RadioTech.is95b, RadioTech.oneXRtt,
        RadioTech.evdo0, RadioTech.evdoA, RadioTech.evdoB, RadioTech.ehrpd, RadioTech.lte, RadioTech.lteCa,
        RadioTech.tdScdma, List.mem_cons, List.not_mem_nil, or_false]
      repeat rw [if_neg (by omega)]
    rw [remapTechnology, if_pos h, hother]
    exact iff_of_false (by decide) (fun hn => hn h)
  · rw [remapTechnology, if_neg h]
    exact iff_of_true rfl h

/-- The technology a data response names, as the handler reads it. -/
def dataTechnology (resp : StringArray) : ℤ :=
  match resp.entry 3 with
  | some rat => atoiNullHandledDef rat 0
  | none => 0

theorem voiceStrings_classify_iff {resp : StringArray} (h4 : 4 ≤ resp.numStrings) :
    (∃ r, voiceOfStrings resp = some r ∧ r.cellIdentity.Classifies r.rat) ↔
      resp.numStrings = 4 ∨ 14 ≤ resp.numStrings := by
  constructor
  · rintro ⟨r, hr, -⟩
    exact (exists_voiceOfStrings_iff h4).mp ⟨r, hr⟩
  · intro hn
    obtain ⟨rat, hrat⟩ := exists_technology h4
    obtain ⟨r, ril, hr, hrat', hcell, htype⟩ := voiceOfStrings_eq_some h4 hn hrat
    refine ⟨r, hr, ?_⟩
    rw [hcell, classifies_fill_iff, hrat', htype]
    exact getCellInfoType_eq rat (by decide)

theorem dataStrings_classify_iff (mtkHardware : Bool) {resp : StringArray} (h4 : 4 ≤ resp.numStrings) :
    (∃ r, dataOfStrings mtkHardware resp = some r ∧ r.cellIdentity.Classifies r.rat) ↔
      resp.numStrings ≠ 5 ∧ ¬ (mtkHardware = true ∧ 128 ≤ dataTechnology resp) := by
  obtain ⟨rat, hrat⟩ := exists_technology h4
  have htech : dataTechnology resp = atoiNullHandledDef rat 0 := by rw [dataTechnology, hrat]
  by_cases hn : resp.numStrings = 5
  · simp [dataOfStrings_eq_none mtkHardware hn, hn]
  · obtain ⟨r, ril, hr, hrat', hcell, htype⟩ := dataOfStrings_eq_some mtkHardware h4 hn hrat
    have hclass : r.cellIdentity.Classifies r.rat ↔
        ¬ (mtkHardware = true ∧ 128 ≤ dataTechnology resp) := by
      rw [hcell, classifies_fill_iff, hrat', htype, getCellInfoType_eq rat cellInfoTypeOf_zero, htech]
      exact cellInfoTypeOf_remap_iff mtkHardware _
    simp [hr, hn, hclass]

/-- **Which responses are reported with a cell identity that fits the technology.**  An array of strings
always is, once it is read within bounds, except where the data handler replaces the technology; a
structure is where the vendor has tagged its cell by the technology it names. -/
theorem cellIdentity_classifies_iff (mtkHardware : Bool) (version serial : ℤ)
    (responseType : ResponseType) (e : RilErrno) (voice : Option (RegResponse RilVoiceRegistrationState))
    (data : Option (RegResponse RilDataRegistrationState)) :
    (Reported (fun r : VoiceRegStateResult => r.cellIdentity.Classifies r.rat)
        (getVoiceRegistrationStateResponse version serial responseType e voice) ↔
      ∀ x, voice = some x →
        (version ≤ 14 → 4 ≤ x.strings.numStrings →
          x.strings.numStrings = 4 ∨ 14 ≤ x.strings.numStrings) ∧
        (14 < version → ∀ record, x.record = some record →
          record.cellIdentity.cellInfoType = cellInfoTypeOf record.rat)) ∧
    (Reported (fun r : DataRegStateResult => r.cellIdentity.Classifies r.rat)
        (getDataRegistrationStateResponse mtkHardware version serial responseType e data) ↔
      ∀ x, data = some x →
        (version ≤ 14 → 4 ≤ x.strings.numStrings →
          x.strings.numStrings ≠ 5 ∧ ¬ (mtkHardware = true ∧ 128 ≤ dataTechnology x.strings)) ∧
        (14 < version → ∀ record, x.record = some record →
          record.cellIdentity.cellInfoType = cellInfoTypeOf record.rat)) := by
  constructor
  · refine Iff.trans (reported_iff ?_ voice) ?_
    · exact classifies_empty
    refine forall₂_congr fun x _ => and_congr ?_ ?_
    · exact forall₂_congr fun _ h4 => voiceStrings_classify_iff h4
    · exact forall₃_congr fun _ record _ => classifies_fill_iff record.cellIdentity record.rat
  · refine Iff.trans (reported_iff ?_ data) ?_
    · exact classifies_empty
    refine forall₂_congr fun x _ => and_congr ?_ ?_
    · exact forall₂_congr fun _ h4 => dataStrings_classify_iff mtkHardware h4
    · exact forall₃_congr fun _ record _ => classifies_fill_iff record.cellIdentity record.rat

/-- **Technology 128 is reported as HSPAP, and its cell as of no type.** -/
theorem mtk_technology_misclassified :
    ∃ info result, getDataRegistrationStateResponse true 14 7 .solicited .success
        (some ⟨⟨[some [49], some [49, 65], some [50, 66], some [49, 50, 56]], by decide⟩, none⟩) =
          some (info, result) ∧
      result.rat = RadioTech.hspap ∧ cellInfoTypeOf result.rat = .wcdma ∧
      result.cellIdentity = .empty .none := by
  refine ⟨_, _, rfl, ?_, ?_, ?_⟩ <;> decide

end Hal
