import Mathlib.Data.Int.Basic
import Mathlib.Data.List.Basic

/-!
# Cell identities

A cell is reported as a `CellIdentity`: its kind, and one vector per kind of which the vector of its own
kind has one element.  The daemon makes it out of a `RIL_CellIdentity_v16`, a union with the kind as its
tag, in `fillCellIdentityResponse`; the kind goes by the radio technology, `cellInfoTypeOf`, which vendors
write as a decimal string.

* `filled_fillCellIdentityResponse` — the shape is right whatever the tag says.
-/

namespace Hal

/-! ## Numbers in strings -/

def isSpace (c : UInt8) : Bool := c = 32 || (9 ≤ c && c ≤ 13)

/-- The value of a character as a digit, if it is one in that base. -/
def digitValue (base : ℕ) (c : UInt8) : Option ℕ :=
  let value :=
    if 48 ≤ c ∧ c ≤ 57 then c.toNat - 48
    else if 97 ≤ c ∧ c ≤ 122 then c.toNat - 87
    else if 65 ≤ c ∧ c ≤ 90 then c.toNat - 55
    else base
  if value < base then some value else none

def digitsValue (base : ℕ) (acc : ℕ) : List UInt8 → ℕ
  | [] => acc
  | c :: cs =>
    match digitValue base c with
    | some d => digitsValue base (acc * base + d) cs
    | none => acc

def signOf : List UInt8 → Bool × List UInt8
  | 45 :: s => (true, s)
  | 43 :: s => (false, s)
  | s => (false, s)

/-- The `0x` that base 16 allows.  Without a digit after it the number is 0 either way. -/
def skipZeroX : List UInt8 → List UInt8
  | 48 :: 120 :: s => s
  | 48 :: 88 :: s => s
  | s => s

/-- `strtol` with a `long` of 32 bits: white space, a sign, digits, and the nearest `long` where the
number is none. -/
def strtol (base : ℕ) (s : List UInt8) : ℤ :=
  let (negative, s) := signOf (s.dropWhile isSpace)
  let magnitude := digitsValue base 0 (if base = 16 then skipZeroX s else s)
  if negative then max (-magnitude) (-2147483648) else min magnitude 2147483647

def atoi (s : List UInt8) : ℤ := strtol 10 s

def atoiNullHandledDef (x : Option (List UInt8)) (defaultVal : ℤ) : ℤ :=
  match x with
  | some s => atoi s
  | none => defaultVal

def atoiNullHandled (x : Option (List UInt8)) : ℤ := atoiNullHandledDef x (-1)

/-! ## Technologies and cells -/

namespace RadioTech

def gprs : ℤ := 1
def edge : ℤ := 2
def umts : ℤ := 3
def is95a : ℤ := 4
def is95b : ℤ := 5
def oneXRtt : ℤ := 6
def evdo0 : ℤ := 7
def evdoA : ℤ := 8
def hsdpa : ℤ := 9
def hsupa : ℤ := 10
def hspa : ℤ := 11
def evdoB : ℤ := 12
def ehrpd : ℤ := 13
def lte : ℤ := 14
def hspap : ℤ := 15
def gsm : ℤ := 16
def tdScdma : ℤ := 17
def lteCa : ℤ := 19

end RadioTech

/-- `RIL_CellInfoType`, of which `CellInfoType` has the same values; `other` is any number that is none of
them. -/
inductive CellInfoType where
  | none
  | gsm
  | cdma
  | lte
  | wcdma
  | tdScdma
  | other (value : ℤ)
deriving DecidableEq

/-- The switch of `getCellInfoTypeRadioTechnology`. -/
def cellInfoTypeOf (radioTech : ℤ) : CellInfoType :=
  if radioTech ∈ [RadioTech.gprs, RadioTech.edge, RadioTech.gsm] then .gsm
  else if radioTech ∈ [RadioTech.umts, RadioTech.hsdpa, RadioTech.hsupa, RadioTech.hspa,
    RadioTech.hspap] then .wcdma
  else if radioTech ∈ [RadioTech.is95a, RadioTech.is95b, RadioTech.oneXRtt, RadioTech.evdo0,
    RadioTech.evdoA, RadioTech.evdoB, RadioTech.ehrpd] then .cdma
  else if radioTech ∈ [RadioTech.lte, RadioTech.lteCa] then .lte
  else if radioTech ∈ [RadioTech.tdScdma] then .tdScdma
  else .none

def getCellInfoTypeRadioTechnology (rat : Option (List UInt8)) : CellInfoType :=
  match rat with
  | none => .none
  | some rat => cellInfoTypeOf (atoi rat)

structure RilCellIdentityGsm where
  mcc : ℤ
  mnc : ℤ
  lac : ℤ
  cid : ℤ
  arfcn : ℤ
  bsic : UInt8

structure RilCellIdentityWcdma where
  mcc : ℤ
  mnc : ℤ
  lac : ℤ
  cid : ℤ
  psc : ℤ
  uarfcn : ℤ

/-- The same fields in `RIL_CellIdentityCdma` and in the reported `CellIdentityCdma`. -/
structure CellIdentityCdma where
  networkId : ℤ
  systemId : ℤ
  baseStationId : ℤ
  longitude : ℤ
  latitude : ℤ
deriving DecidableEq

structure RilCellIdentityLte where
  mcc : ℤ
  mnc : ℤ
  ci : ℤ
  pci : ℤ
  tac : ℤ
  earfcn : ℤ

structure RilCellIdentityTdscdma where
  mcc : ℤ
  mnc : ℤ
  lac : ℤ
  cid : ℤ
  cpid : ℤ

/-- `RIL_CellIdentity_v16`.  The members share their memory in the source; each use reads and writes the
one member its type selects, so they stand side by side here. -/
structure RilCellIdentity where
  cellInfoType : CellInfoType
  cellIdentityGsm : RilCellIdentityGsm
  cellIdentityWcdma : RilCellIdentityWcdma
  cellIdentityCdma : CellIdentityCdma
  cellIdentityLte : RilCellIdentityLte
  cellIdentityTdscdma : RilCellIdentityTdscdma

/-- After `memset(&rilCellIdentity, -1, ...)` and the assignment of the type. -/
def RilCellIdentity.unset (cellInfoType : CellInfoType) : RilCellIdentity where
  cellInfoType := cellInfoType
  cellIdentityGsm := ⟨-1, -1, -1, -1, -1, 255⟩
  cellIdentityWcdma := ⟨-1, -1, -1, -1, -1, -1⟩
  cellIdentityCdma := ⟨-1, -1, -1, -1, -1⟩
  cellIdentityLte := ⟨-1, -1, -1, -1, -1, -1⟩
  cellIdentityTdscdma := ⟨-1, -1, -1, -1, -1⟩

structure CellIdentityGsm where
  mcc : String
  mnc : String
  lac : ℤ
  cid : ℤ
  arfcn : ℤ
  bsic : UInt8
deriving DecidableEq

structure CellIdentityWcdma where
  mcc : String
  mnc : String
  lac : ℤ
  cid : ℤ
  psc : ℤ
  uarfcn : ℤ
deriving DecidableEq

structure CellIdentityLte where
  mcc : String
  mnc : String
  ci : ℤ
  pci : ℤ
  tac : ℤ
  earfcn : ℤ
deriving DecidableEq

structure CellIdentityTdscdma where
  mcc : String
  mnc : String
  lac : ℤ
  cid : ℤ
  cpid : ℤ
deriving DecidableEq

structure CellIdentity where
  cellInfoType : CellInfoType
  cellIdentityGsm : List CellIdentityGsm
  cellIdentityWcdma : List CellIdentityWcdma
  cellIdentityCdma : List CellIdentityCdma
  cellIdentityLte : List CellIdentityLte
  cellIdentityTdscdma : List CellIdentityTdscdma
deriving DecidableEq

def CellIdentity.empty (cellInfoType : CellInfoType) : CellIdentity where
  cellInfoType := cellInfoType
  cellIdentityGsm := []
  cellIdentityWcdma := []
  cellIdentityCdma := []
  cellIdentityLte := []
  cellIdentityTdscdma := []

def fillCellIdentityResponse (ril : RilCellIdentity) : CellIdentity :=
  let cellIdentity := CellIdentity.empty ril.cellInfoType
  match ril.cellInfoType with
  | .gsm =>
    let gsm := ril.cellIdentityGsm
    { cellIdentity with
      cellIdentityGsm :=
        [⟨toString gsm.mcc, toString gsm.mnc, gsm.lac, gsm.cid, gsm.arfcn, gsm.bsic⟩] }
  | .wcdma =>
    let wcdma := ril.cellIdentityWcdma
    { cellIdentity with
      cellIdentityWcdma :=
        [⟨toString wcdma.mcc, toString wcdma.mnc, wcdma.lac, wcdma.cid, wcdma.psc, wcdma.uarfcn⟩] }
  | .cdma => { cellIdentity with cellIdentityCdma := [ril.cellIdentityCdma] }
  | .lte =>
    let lte := ril.cellIdentityLte
    { cellIdentity with
      cellIdentityLte :=
        [⟨toString lte.mcc, toString lte.mnc, lte.ci, lte.pci, lte.tac, lte.earfcn⟩] }
  | .tdScdma =>
    let tdscdma := ril.cellIdentityTdscdma
    { cellIdentity with
      cellIdentityTdscdma :=
        [⟨toString tdscdma.mcc, toString tdscdma.mnc, tdscdma.lac, tdscdma.cid, tdscdma.cpid⟩] }
  | _ => cellIdentity

/-- **One element in the vector the type names, none in the others.** -/
structure CellIdentity.Filled (c : CellIdentity) : Prop where
  gsm : c.cellIdentityGsm.length = if c.cellInfoType = .gsm then 1 else 0
  wcdma : c.cellIdentityWcdma.length = if c.cellInfoType = .wcdma then 1 else 0
  cdma : c.cellIdentityCdma.length = if c.cellInfoType = .cdma then 1 else 0
  lte : c.cellIdentityLte.length = if c.cellInfoType = .lte then 1 else 0
  tdScdma : c.cellIdentityTdscdma.length = if c.cellInfoType = .tdScdma then 1 else 0

/-- The cell identity of a result fits its technology. -/
structure CellIdentity.Classifies (c : CellIdentity) (rat : ℤ) : Prop where
  type_eq : c.cellInfoType = cellInfoTypeOf rat
  filled : c.Filled

@[simp]
theorem fillCellIdentityResponse_cellInfoType (ril : RilCellIdentity) :
    (fillCellIdentityResponse ril).cellInfoType = ril.cellInfoType := by
  cases h : ril.cellInfoType <;> simp [fillCellIdentityResponse, CellIdentity.empty, h]

theorem filled_fillCellIdentityResponse (ril : RilCellIdentity) : (fillCellIdentityResponse ril).Filled := by
  cases h : ril.cellInfoType <;>
    constructor <;> simp [fillCellIdentityResponse, CellIdentity.empty, h]

/-- Every identity the daemon fills in has the right shape, so what is left is its type. -/
theorem classifies_fill_iff (ril : RilCellIdentity) (rat : ℤ) :
    (fillCellIdentityResponse ril).Classifies rat ↔ ril.cellInfoType = cellInfoTypeOf rat := by
  constructor
  · intro h
    rw [← fillCellIdentityResponse_cellInfoType, h.type_eq]
  · intro h
    exact ⟨by rw [fillCellIdentityResponse_cellInfoType, h], filled_fillCellIdentityResponse ril⟩

theorem cellInfoTypeOf_zero : cellInfoTypeOf 0 = .none := by decide

/-- The identity of a result that was never filled in. -/
theorem classifies_empty : (CellIdentity.empty .none).Classifies 0 where
  type_eq := cellInfoTypeOf_zero.symm
  filled := ⟨rfl, rfl, rfl, rfl, rfl⟩

end Hal
