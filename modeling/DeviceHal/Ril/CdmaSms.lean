import DeviceHal.Core.Loops

/-!
# CDMA messages, to the vendor and back

A message of a client is put into a `RIL_CDMA_SMS_Message` by `constructCdmaSms`, one of the vendor is taken
out of it by `cdmaNewSmsInd`.  The structure has three arrays, each with a count: the digits of the address,
those of the subaddress, and the bearer data.

The count is the size of the client's vector, as far as the count's type holds it; what is copied is cut at
the size of the array.  So a count can promise more than the array has.

The sizes of the arrays are from a header that is not part of this repository, and are a parameter here.

* `carries_iff` — when the count is the number of entries copied.
* **`cdmaSms_counts_iff`** — when that is so of all three, and the way back for messages within the limits.
-/

namespace Hal

/-- `RIL_CDMA_SMS_ADDRESS_MAX`, `RIL_CDMA_SMS_SUBADDRESS_MAX` and `RIL_CDMA_SMS_BEARER_DATA_MAX`.  The counts
of digits are `unsigned char`s and that of the bearer data is an `int`: an array's own size is one of them. -/
structure CdmaSmsLimits where
  addressMax : ℕ
  subaddressMax : ℕ
  bearerDataMax : ℕ
  address_lt : addressMax < 256
  subaddress_lt : subaddressMax < 256
  bearerData_lt : bearerDataMax < 2147483648

structure RilCdmaSmsAddress (L : CdmaSmsLimits) where
  digitMode : ℤ
  numberMode : ℤ
  numberType : ℤ
  numberPlan : ℤ
  numberOfDigits : UInt8
  digits : Vector UInt8 L.addressMax

structure RilCdmaSmsSubaddress (L : CdmaSmsLimits) where
  subaddressType : ℤ
  odd : UInt8
  numberOfDigits : UInt8
  digits : Vector UInt8 L.subaddressMax

structure RilCdmaSmsMessage (L : CdmaSmsLimits) where
  uTeleserviceID : ℤ
  bIsServicePresent : UInt8
  uServicecategory : ℤ
  sAddress : RilCdmaSmsAddress L
  sSubAddress : RilCdmaSmsSubaddress L
  uBearerDataLen : ℤ
  aBearerData : Vector UInt8 L.bearerDataMax

structure CdmaSmsAddress where
  digitMode : ℤ
  numberMode : ℤ
  numberType : ℤ
  numberPlan : ℤ
  digits : List UInt8

structure CdmaSmsSubaddress where
  subaddressType : ℤ
  odd : Bool
  digits : List UInt8

structure CdmaSmsMessage where
  teleserviceId : ℤ
  isServicePresent : Bool
  serviceCategory : ℤ
  address : CdmaSmsAddress
  subAddress : CdmaSmsSubaddress
  bearerData : List UInt8

def boolToInt (b : Bool) : UInt8 := if b then 1 else 0

/-! ## One array -/

/-- `digitLimit = MIN(count, max)` and the loop over it. -/
def copyLimited {max : ℕ} (count : ℤ) (src : List UInt8) (dst : Vector UInt8 max) : Except Fault (Vector UInt8 max) :=
  fill (readAt src) (min count max).toNat dst

/-- `setToExternal(array, MIN(count, max))`.  A negative count becomes a size no array has. -/
def takeLimited {max : ℕ} (count : ℤ) (array : Vector UInt8 max) : Except Fault (List UInt8) :=
  if 0 ≤ min count max then .ok (array.toList.take (min count max).toNat)
  else .error (.load 0 (min count max % 2 ^ 32).toNat max)

/-- **The count is the number of entries copied**: that many are the message's, and lie in the array; the
others are what they were. -/
structure Carries {max : ℕ} (count : ℤ) (src : List UInt8) (before after : Vector UInt8 max) : Prop where
  nonneg : 0 ≤ count
  le_size : count ≤ max
  le_length : count ≤ src.length
  toList_eq : after.toList = src.take count.toNat ++ before.toList.drop count.toNat

def CopiedTo {max : ℕ} (count : ℤ) (src : List UInt8) (before after : Vector UInt8 max) : Prop :=
  FilledTo src before (min count max).toNat after

section OneArray

variable {max : ℕ} {count : ℤ} {src : List UInt8} {dst : Vector UInt8 max}

/-- A copy stays inside both arrays, whatever the sizes. -/
theorem copyLimited_ok (dst : Vector UInt8 max) (h : count ≤ src.length) :
    ∃ out, copyLimited count src dst = .ok out ∧ CopiedTo count src dst out := by
  exact fill_ok (by omega) (by omega) fun _ _ _ hx => readAt_of_getElem? hx

theorem carries_iff {out : Vector UInt8 max} (hout : CopiedTo count src dst out) (h : count ≤ src.length) :
    Carries count src dst out ↔ 0 ≤ count ∧ count ≤ max := by
  constructor
  · intro hc
    exact ⟨hc.nonneg, hc.le_size⟩
  · rintro ⟨h0, hle⟩
    rw [CopiedTo, min_eq_left hle] at hout
    exact ⟨h0, hle, h, hout⟩

/-- **Back out of the array**, if the count is the size of what was copied and there was room for it. -/
theorem takeLimited_of_copiedTo {out : Vector UInt8 max} (hcount : count = src.length)
    (hle : src.length ≤ max) (hout : CopiedTo count src dst out) : takeLimited count out = .ok src := by
  have hmin : (min count max).toNat = src.length := by omega
  rw [CopiedTo, hmin, FilledTo, List.take_length] at hout
  rw [takeLimited, if_pos (by omega), hmin, hout, List.take_left]

end OneArray

/-! ## Messages -/

def constructCdmaSms {L : CdmaSmsLimits} (rcsm : RilCdmaSmsMessage L) (sms : CdmaSmsMessage) :
    Except Fault (RilCdmaSmsMessage L) := do
  let addressCount := UInt8.ofNat sms.address.digits.length
  let address ← copyLimited addressCount.toNat sms.address.digits rcsm.sAddress.digits
  let subaddressCount := UInt8.ofNat sms.subAddress.digits.length
  let subaddress ← copyLimited subaddressCount.toNat sms.subAddress.digits rcsm.sSubAddress.digits
  let bearerDataLen := intOfSize sms.bearerData.length
  let bearerData ← copyLimited bearerDataLen sms.bearerData rcsm.aBearerData
  .ok {
    uTeleserviceID := sms.teleserviceId
    bIsServicePresent := boolToInt sms.isServicePresent
    uServicecategory := sms.serviceCategory
    sAddress := {
      digitMode := sms.address.digitMode
      numberMode := sms.address.numberMode
      numberType := sms.address.numberType
      numberPlan := sms.address.numberPlan
      numberOfDigits := addressCount
      digits := address }
    sSubAddress := {
      subaddressType := sms.subAddress.subaddressType
      odd := boolToInt sms.subAddress.odd
      numberOfDigits := subaddressCount
      digits := subaddress }
    uBearerDataLen := bearerDataLen
    aBearerData := bearerData }

/-- The message the client is told of.  A `response` that is `NULL` or has another size is `none`, and
nothing is told. -/
def cdmaNewSmsInd {L : CdmaSmsLimits} (response : Option (RilCdmaSmsMessage L)) :
    Except Fault (Option CdmaSmsMessage) :=
  match response with
  | none => .ok none
  | some rilMsg => do
    let address ← takeLimited rilMsg.sAddress.numberOfDigits.toNat rilMsg.sAddress.digits
    let subaddress ← takeLimited rilMsg.sSubAddress.numberOfDigits.toNat rilMsg.sSubAddress.digits
    let bearerData ← takeLimited rilMsg.uBearerDataLen rilMsg.aBearerData
    .ok (some {
      teleserviceId := rilMsg.uTeleserviceID
      isServicePresent := rilMsg.bIsServicePresent ≠ 0
      serviceCategory := rilMsg.uServicecategory
      address := {
        digitMode := rilMsg.sAddress.digitMode
        numberMode := rilMsg.sAddress.numberMode
        numberType := rilMsg.sAddress.numberType
        numberPlan := rilMsg.sAddress.numberPlan
        digits := address }
      subAddress := {
        subaddressType := rilMsg.sSubAddress.subaddressType
        odd := rilMsg.sSubAddress.odd ≠ 0
        digits := subaddress }
      bearerData := bearerData })

/-- The counts of the structure are the numbers of entries copied. -/
structure CountsCopied {L : CdmaSmsLimits} (rcsm : RilCdmaSmsMessage L) (sms : CdmaSmsMessage)
    (out : RilCdmaSmsMessage L) : Prop where
  address : Carries out.sAddress.numberOfDigits.toNat sms.address.digits rcsm.sAddress.digits
    out.sAddress.digits
  subaddress : Carries out.sSubAddress.numberOfDigits.toNat sms.subAddress.digits rcsm.sSubAddress.digits
    out.sSubAddress.digits
  bearerData : Carries out.uBearerDataLen sms.bearerData rcsm.aBearerData out.aBearerData

/-- The message has room in the structure. -/
structure CdmaSmsMessage.WithinLimits (L : CdmaSmsLimits) (sms : CdmaSmsMessage) : Prop where
  address : sms.address.digits.length ≤ L.addressMax
  subaddress : sms.subAddress.digits.length ≤ L.subaddressMax
  bearerData : sms.bearerData.length ≤ L.bearerDataMax

section Messages

variable {L : CdmaSmsLimits}

/-- A count of digits is never above the size it was taken from. -/
theorem ofNat_toNat_le (n : ℕ) : ((UInt8.ofNat n).toNat : ℤ) ≤ n := by
  exact Int.ofNat_le.mpr (Nat.mod_le n _)

theorem boolToInt_ne_zero (b : Bool) : decide (boolToInt b ≠ 0) = b := by
  cases b <;> decide

/-- The structure of a message, with its arrays as they were left. -/
@[reducible]
def rilMessage (sms : CdmaSmsMessage) (address : Vector UInt8 L.addressMax)
    (subaddress : Vector UInt8 L.subaddressMax) (bearerData : Vector UInt8 L.bearerDataMax) :
    RilCdmaSmsMessage L where
  uTeleserviceID := sms.teleserviceId
  bIsServicePresent := boolToInt sms.isServicePresent
  uServicecategory := sms.serviceCategory
  sAddress := {
    digitMode := sms.address.digitMode
    numberMode := sms.address.numberMode
    numberType := sms.address.numberType
    numberPlan := sms.address.numberPlan
    numberOfDigits := UInt8.ofNat sms.address.digits.length
    digits := address }
  sSubAddress := {
    subaddressType := sms.subAddress.subaddressType
    odd := boolToInt sms.subAddress.odd
    numberOfDigits := UInt8.ofNat sms.subAddress.digits.length
    digits := subaddress }
  uBearerDataLen := intOfSize sms.bearerData.length
  aBearerData := bearerData

/-- The arrays hold what was copied from the message. -/
structure ArraysCopied (rcsm : RilCdmaSmsMessage L) (sms : CdmaSmsMessage)
    (address : Vector UInt8 L.addressMax) (subaddress : Vector UInt8 L.subaddressMax)
    (bearerData : Vector UInt8 L.bearerDataMax) : Prop where
  address : CopiedTo (UInt8.ofNat sms.address.digits.length).toNat sms.address.digits
    rcsm.sAddress.digits address
  subaddress : CopiedTo (UInt8.ofNat sms.subAddress.digits.length).toNat sms.subAddress.digits
    rcsm.sSubAddress.digits subaddress
  bearerData : CopiedTo (intOfSize sms.bearerData.length) sms.bearerData rcsm.aBearerData bearerData

/-- **What the structure holds**: the counts, and each array as its copy leaves it. -/
theorem constructCdmaSms_ok (rcsm : RilCdmaSmsMessage L) (sms : CdmaSmsMessage) :
    ∃ address subaddress bearerData,
      constructCdmaSms rcsm sms = .ok (rilMessage sms address subaddress bearerData) ∧
      ArraysCopied rcsm sms address subaddress bearerData := by
  obtain ⟨address, haddress, haddress'⟩ :=
    copyLimited_ok rcsm.sAddress.digits (ofNat_toNat_le sms.address.digits.length)
  obtain ⟨subaddress, hsub, hsub'⟩ :=
    copyLimited_ok rcsm.sSubAddress.digits (ofNat_toNat_le sms.subAddress.digits.length)
  obtain ⟨bearerData, hbearer, hbearer'⟩ :=
    copyLimited_ok rcsm.aBearerData (intOfSize_le sms.bearerData.length)
  refine ⟨address, subaddress, bearerData, ?_, haddress', hsub', hbearer'⟩
  simp only [constructCdmaSms, haddress, hsub, hbearer]
  rfl

variable {rcsm : RilCdmaSmsMessage L} {sms : CdmaSmsMessage} {address : Vector UInt8 L.addressMax}
  {subaddress : Vector UInt8 L.subaddressMax} {bearerData : Vector UInt8 L.bearerDataMax}

/-- A count of digits that was taken from a size and cut at 256. -/
theorem carries_digits_iff {max : ℕ} {src : List UInt8} {before after : Vector UInt8 max}
    (h : CopiedTo (UInt8.ofNat src.length).toNat src before after) :
    Carries (UInt8.ofNat src.length).toNat src before after ↔ src.length % 256 ≤ max := by
  rw [carries_iff h (ofNat_toNat_le _), UInt8.toNat_ofNat']
  omega

theorem countsCopied_iff (h : ArraysCopied rcsm sms address subaddress bearerData) :
    CountsCopied rcsm sms (rilMessage sms address subaddress bearerData) ↔
      sms.address.digits.length % 256 ≤ L.addressMax ∧
      sms.subAddress.digits.length % 256 ≤ L.subaddressMax ∧
      0 ≤ intOfSize sms.bearerData.length ∧ intOfSize sms.bearerData.length ≤ L.bearerDataMax := by
  rw [← carries_digits_iff h.address, ← carries_digits_iff h.subaddress, ← carries_iff h.bearerData (intOfSize_le _)]
  constructor
  · rintro ⟨haddress, hsub, hbearer⟩
    dsimp only at hbearer
    exact ⟨haddress, hsub, hbearer⟩
  · rintro ⟨haddress, hsub, hbearer⟩
    refine ⟨haddress, hsub, ?_⟩
    dsimp only
    exact hbearer

/-- **The way back**, for a message that had room. -/
theorem cdmaNewSmsInd_rilMessage (h : ArraysCopied rcsm sms address subaddress bearerData)
    (hwithin : sms.WithinLimits L) :
    cdmaNewSmsInd (some (rilMessage sms address subaddress bearerData)) = .ok (some sms) := by
  have hL₁ := L.address_lt
  have hL₂ := L.subaddress_lt
  have hL₃ := L.bearerData_lt
  obtain ⟨hw₁, hw₂, hw₃⟩ := hwithin
  have h₁ := takeLimited_of_copiedTo (by rw [UInt8.toNat_ofNat']; omega) hw₁ h.address
  have h₂ := takeLimited_of_copiedTo (by rw [UInt8.toNat_ofNat']; omega) hw₂ h.subaddress
  have h₃ := takeLimited_of_copiedTo (intOfSize_eq (by omega)) hw₃ h.bearerData
  simp only [cdmaNewSmsInd, h₁, h₂, h₃, boolToInt_ne_zero]
  rfl

/-- **The counts of a message that is handed to the vendor are the numbers of entries copied** iff each is
no more than its array holds.  A message that fits comes back as it was. -/
theorem cdmaSms_counts_iff (rcsm : RilCdmaSmsMessage L) (sms : CdmaSmsMessage) :
    ∃ out, constructCdmaSms rcsm sms = .ok out ∧
      (CountsCopied rcsm sms out ↔
        sms.address.digits.length % 256 ≤ L.addressMax ∧
        sms.subAddress.digits.length % 256 ≤ L.subaddressMax ∧
        0 ≤ intOfSize sms.bearerData.length ∧
        intOfSize sms.bearerData.length ≤ L.bearerDataMax) ∧
      (sms.WithinLimits L → cdmaNewSmsInd (some out) = .ok (some sms)) := by
  obtain ⟨address, subaddress, bearerData, hout, hcopied⟩ := constructCdmaSms_ok rcsm sms
  exact ⟨_, hout, countsCopied_iff hcopied, cdmaNewSmsInd_rilMessage hcopied⟩

end Messages

def usualLimits : CdmaSmsLimits := ⟨36, 36, 255, by decide, by decide, by decide⟩

/-- `RIL_CDMA_SMS_Message rcsm = {}`. -/
def emptyMessage (L : CdmaSmsLimits) : RilCdmaSmsMessage L where
  uTeleserviceID := 0
  bIsServicePresent := 0
  uServicecategory := 0
  sAddress := ⟨0, 0, 0, 0, 0, Vector.replicate _ 0⟩
  sSubAddress := ⟨0, 0, 0, Vector.replicate _ 0⟩
  uBearerDataLen := 0
  aBearerData := Vector.replicate _ 0

/-- A message with an address of the given digits and nothing else. -/
def messageTo (digits : List UInt8) : CdmaSmsMessage :=
  ⟨4098, false, 0, ⟨0, 0, 0, 0, digits⟩, ⟨0, false, []⟩, []⟩

theorem cdmaSms_short_address :
    (messageTo [5, 5, 1]).WithinLimits usualLimits ∧
    ∃ out, constructCdmaSms (emptyMessage usualLimits) (messageTo [5, 5, 1]) = .ok out ∧
      CountsCopied (emptyMessage usualLimits) (messageTo [5, 5, 1]) out ∧
      cdmaNewSmsInd (some out) = .ok (some (messageTo [5, 5, 1])) := by
  have hwithin : (messageTo [5, 5, 1]).WithinLimits usualLimits := ⟨by decide, by decide, by decide⟩
  obtain ⟨out, hout, hcounts, hback⟩ := cdmaSms_counts_iff (emptyMessage usualLimits) (messageTo [5, 5, 1])
  exact ⟨hwithin, out, hout, hcounts.mpr (by decide), hback hwithin⟩

/-- **An address of 37 digits**: 36 are copied, and the count says 37. -/
theorem long_address_count :
    ∃ out, constructCdmaSms (emptyMessage usualLimits) (messageTo (List.replicate 37 5)) = .ok out ∧
      out.sAddress.numberOfDigits = 37 ∧ out.sAddress.digits.toList = List.replicate 36 5 := by
  obtain ⟨address, subaddress, bearerData, hout, hcopied⟩ :=
    constructCdmaSms_ok (emptyMessage usualLimits) (messageTo (List.replicate 37 5))
  refine ⟨_, hout, rfl, ?_⟩
  have haddress := hcopied.address
  exact haddress.trans (by decide)

end Hal
