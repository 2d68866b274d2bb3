import Mathlib.Data.List.TakeWhile
import DeviceHal.Core.Bytes
import DeviceHal.Core.Ucs2

/-!
# Datagrams from `mnld`

`mnld_to_gps_handler` reads one datagram, takes its first `int` for a command and decodes the fields of the
command with `buff_get_int`, `buff_get_string` and `buff_get_struct`.  Modelled are all commands, with the
calls into the framework that they end in.  A load outside the datagram that was received, or a store
outside the variable it goes to, is a `Fault`.

**The defect.**  None of the getters knows how much was received, and the lengths come from the wire: a
string is copied whatever its length, `raw_data_to_hex_string` writes four characters for each one of the
requestor's, and a navigation message is copied out of an array of 40 bytes with the length it declares.

* `Field.Fits`, `layout` — what the fields of each command have to satisfy, in the order they are sent.
* **`handler_inBounds_iff`** — the handler stays in bounds **iff** the datagram fits the layout of its
  command.
-/

namespace Hal.FromMnld

/-! ## Commands -/

/-- The codes `mnld_to_gps_handler` knows, in a build with `EPO_SUPPORT`. -/
inductive MnldCmd where
  | notification
  | notification2
  | dataConnReq
  | dataConnReq2
  | dataConnRelease
  | requestSetId
  | requestRefloc
  | agpsLoc
  | updateEpoFileDone
  | updateEpoFileFail
  | injectTimeReq
  | injectLocationReq
  | mnlDie
  | gpsIcon
  | measurement
  | navigation

def MnldCmd.ofCode (code : ℤ) : Option MnldCmd :=
  if code = 230 then some .notification
  else if code = 231 then some .dataConnReq
  else if code = 232 then some .dataConnRelease
  else if code = 233 then some .requestSetId
  else if code = 234 then some .requestRefloc
  else if code = 235 then some .agpsLoc
  else if code = 236 then some .notification2
  else if code = 237 then some .dataConnReq2
  else if code = 0x36 then some .updateEpoFileDone
  else if code = 0x38 then some .updateEpoFileFail
  else if code = 0x41 then some .mnlDie
  else if code = 0x42 then some .gpsIcon
  else if code = 0x48 then some .injectTimeReq
  else if code = 0x49 then some .injectLocationReq
  else if code = 0x76 then some .measurement
  else if code = 0x77 then some .navigation
  else none

/-! ## What the handler hands on -/

/-- `GpsNiNotification`; the two texts are arrays of 256 and 2048 bytes. -/
structure GpsNiNotification where
  notificationId : ℤ
  niType : ℕ
  notifyFlags : ℕ
  timeout : ℕ
  defaultResponse : ℕ
  requestorId : List UInt8
  text : List UInt8
  requestorIdEncoding : ℤ
  textEncoding : ℤ
deriving DecidableEq

/-- `AGpsStatus`, of which three versions are filled in. -/
inductive AgpsStatus where
  | requestDataConn (ipaddr : ℤ)
  | requestDataConnAddr (addr : List UInt8)
  | releaseDataConn
deriving DecidableEq

/-- `GpsLocation`, its numbers as they lie in memory. -/
structure GpsLocation where
  flags : ℕ
  latitude : List UInt8
  longitude : List UInt8
  altitude : List UInt8
  speed : List UInt8
  bearing : List UInt8
  accuracy : List UInt8
  timestamp : List UInt8
deriving DecidableEq

structure GpsNavigationMessage where
  prn : UInt8
  type : ℤ
  messageId : ℤ
  submessageId : ℤ
  data : List UInt8
deriving DecidableEq

inductive GpsStatusValue where
  | sessionBegin
  | sessionEnd
  | engineOn
  | engineOff
deriving DecidableEq

/-- What the handler does with a decoded command. -/
inductive HalCall where
  | notifyCb (notify : GpsNiNotification)
  | agpsStatusCb (status : AgpsStatus)
  | requestSetid (flags : ℤ)
  | requestRefloc (flags : ℤ)
  | locationCb (location : GpsLocation)
  | unlinkEpoFileHal
  | requestUtcTimeCb
  | sendLocationToMnl
  | statusCb (status : GpsStatusValue)
  | releaseStopCondition
  | releaseWakelockCb
  | clearStartFlag
  | measurementCallback (measurement clock : List UInt8)
  | navigationMessageCallback (message : GpsNavigationMessage)
deriving DecidableEq

/-- What the handler reads besides the datagram: the variables of the HAL, which callbacks are set, and
the outcome of the two calls of `malloc`. -/
structure HandlerEnv where
  started : Bool
  epoDownloadFailed : Bool
  gpsEpoFileCount : ℤ
  locationCb : Bool
  requestUtcTimeCb : Bool
  gpsmeasurementInitFlag : Bool
  gpsnavigationInitFlag : Bool
  eventAlloc : Bool
  dataAlloc : Bool

/-- A datagram that fits the receive buffer. -/
structure Datagram where
  bytes : List UInt8
  length_le : bytes.length ≤ 9000

/-! ## The getters -/

/-- An `int` as the `size_t` that `memcpy` takes. -/
def sizeT (len : ℤ) : ℕ := (len % 2 ^ 32).toNat

/-- `memcpy` to the front of a variable of `size` bytes. -/
def memcpy (size : ℕ) (bs : List UInt8) : Except Fault (List UInt8) :=
  if bs.length ≤ size then .ok bs else .error (.store 0 bs.length size)

def buffGetInt (buff : List UInt8) : Scan ℤ := do
  let bs ← scan buff 4
  return intOfBytes bs

def buffGetString (size : ℕ) (buff : List UInt8) : Scan (List UInt8) := do
  let len ← buffGetInt buff
  let bs ← scan buff (sizeT len)
  memcpy size bs

/-- The struct is as large as the variable it is copied to. -/
def buffGetStruct (size : ℕ) (buff : List UInt8) : Scan (List UInt8) := do
  let bs ← scan buff size
  memcpy size bs

/-! ## Texts of a notification -/

/-- The loop of `asc_str_to_usc2_str`.  What follows the bytes that were copied is not part of the
datagram. -/
def ascLoop (output : List UInt8) (len : ℕ) : List UInt8 → Except Fault (List UInt8 × ℕ)
  | [] => .error (.load 0 1 0)
  | c :: input =>
    if c = 0 then .ok (output, len)
    else do
      let output ← store output len [0]
      let output ← store output (len + 1) [c]
      ascLoop output (len + 2) input

/-- `asc_str_to_usc2_str`; the two zeros at the end are written one place too far. -/
def ascStrToUsc2Str (output input : List UInt8) : Except Fault (List UInt8 × ℕ) := do
  let output ← store output 0 [0xfe]
  let output ← store output 1 [0xff]
  let (output, len) ← ascLoop output 2 input
  let output ← store output (len + 1) [0]
  let output ← store output (len + 2) [0]
  return (output, len)

/-- The loop of `raw_data_to_hex_string`, at its `i`-th byte. -/
def hexLoop (output : List UInt8) (i : ℕ) : List UInt8 → Except Fault (List UInt8)
  | [] => .ok output
  | b :: input => do
      let output ← store output (i * 2) [Hex.digit (b.toNat / 16)]
      let output ← store output (i * 2 + 1) [Hex.digit (b.toNat % 16)]
      hexLoop output (i + 1) input

def rawDataToHexString (output input : List UInt8) (inputLen : ℕ) : Except Fault (List UInt8) := do
  let raw ← load input 0 inputLen
  hexLoop output 0 raw

/-- A text by way of `ucs2_buff` into an array of `size` bytes. -/
def hexText (size : ℕ) (input : List UInt8) : Except Fault (List UInt8) := do
  let (ucs2Buff, usc2Len) ← ascStrToUsc2Str (padded 1024 []) input
  rawDataToHexString (padded size []) ucs2Buff usc2Len

/-! ## The handler -/

/-- `GPS_NI_NEED_NOTIFY`, `GPS_NI_NEED_VERIFY` and `GPS_NI_PRIVACY_OVERRIDE` for a `mnl_agps_notify_type`. -/
def notifyFlags (type : ℤ) : ℕ :=
  if type = 1 then 1
  else if type = 2 ∨ type = 3 then 1 ||| 2
  else if type = 4 then 4
  else 0

/-- A notification of `GPS_NI_TYPE_UMTS_SUPL`, by default unanswered after eight seconds. -/
def niNotification (id type : ℤ) (requestorId text : List UInt8) (requestorIdEncoding textEncoding : ℤ) :
    GpsNiNotification :=
  { notificationId := id
    niType := 2
    notifyFlags := notifyFlags type
    timeout := 8
    defaultResponse := 3
    requestorId := requestorId
    text := text
    requestorIdEncoding := requestorIdEncoding
    textEncoding := textEncoding }

def gpsEncSuplUcs2 : ℤ := 3

def notification (buff : List UInt8) : Scan (List HalCall) := do
  let id ← buffGetInt buff
  let type ← buffGetInt buff
  let requestorId ← buffGetString 1024 buff
  let clientName ← buffGetString 1024 buff
  let requestorId ← hexText 256 requestorId
  let text ← hexText 2048 clientName
  return [.notifyCb (niNotification id type requestorId text gpsEncSuplUcs2 gpsEncSuplUcs2)]

def notification2 (buff : List UInt8) : Scan (List HalCall) := do
  let id ← buffGetInt buff
  let type ← buffGetInt buff
  let requestorId ← buffGetString 256 buff
  let text ← buffGetString 2048 buff
  let requestorIdEncoding ← buffGetInt buff
  let textEncoding ← buffGetInt buff
  return [.notifyCb (niNotification id type (padded 256 requestorId) (padded 2048 text)
    requestorIdEncoding textEncoding)]

/-- `mnl_agps_agps_location` to `GpsLocation`: a number is taken over if the byte in front of it is set. -/
def gpsLocation (location : List UInt8) : GpsLocation :=
  let used (offset : ℕ) : Bool := location.getD offset 0 ≠ 0
  let taken (offset n : ℕ) (u : Bool) := if u then slice location offset n else padded n []
  { flags := 1 ||| (if used 16 then 2 else 0) ||| (if used 32 then 4 else 0)
      ||| (if used 40 then 8 else 0) ||| (if used 48 then 16 else 0)
    latitude := slice location 0 8
    longitude := slice location 8 8
    altitude := taken 24 8 (used 16)
    speed := taken 36 4 (used 32)
    bearing := taken 44 4 (used 40)
    accuracy := taken 52 4 (used 48)
    timestamp := taken 64 8 (used 56) }

/-- `sizeof(mnl_agps_agps_location)`, `sizeof(struct sockaddr_storage)`, `sizeof(MTK_GPS_MEASUREMENT)`,
`sizeof(MTK_GPS_CLOCK)` and `sizeof(MTK_GPS_NAVIGATION_EVENT)`; the last three are packed to four bytes. -/
def sizeofLocation : ℕ := 72
def sizeofSockaddrStorage : ℕ := 128
def sizeofMeasurement : ℕ := 220
def sizeofClock : ℕ := 68
def sizeofNavigationEvent : ℕ := 56

def gpsIcon (env : HandlerEnv) (status : ℤ) : List HalCall :=
  if env.started then []
  else if status = 1 then [.statusCb .engineOn, .statusCb .sessionBegin]
  else if status = 0 then [.statusCb .engineOff, .statusCb .sessionEnd]
  else []

/-- Only the first of the 32 measurements is looked at, and reported if it has a satellite. -/
def measurement (env : HandlerEnv) (buff : List UInt8) : Scan (List HalCall) :=
  if env.gpsmeasurementInitFlag then do
    let measurements ← buffGetStruct (32 * sizeofMeasurement) buff
    let clock ← buffGetStruct sizeofClock buff
    let first := slice measurements 0 sizeofMeasurement
    return if first.getD 8 0 ≠ 0 then [.measurementCallback first clock] else []
  else return []

/-- `length` of a `MTK_GPS_NAVIGATION_EVENT`. -/
def navigationLength (event : List UInt8) : ℕ := ofLeBytes (slice event 12 4)

/-- The data are copied from `data[40]` to a block of `length` bytes, or to `NULL`. -/
def navigation (env : HandlerEnv) (buff : List UInt8) : Scan (List HalCall) :=
  if env.gpsnavigationInitFlag ∧ env.eventAlloc then do
    let event ← buffGetStruct sizeofNavigationEvent buff
    let length := navigationLength event
    let data ← load (slice event 16 40) 0 length
    let data ← memcpy (if env.dataAlloc then length else 0) data
    return [.navigationMessageCallback
      { prn := event.getD 5 0
        type := Int.bmod (event.getD 4 0).toNat (2 ^ 8)
        messageId := Int.bmod (ofLeBytes (slice event 6 2)) (2 ^ 16)
        submessageId := Int.bmod (ofLeBytes (slice event 8 2)) (2 ^ 16)
        data := data }]
  else return []

def handle (env : HandlerEnv) (buff : List UInt8) : MnldCmd → Scan (List HalCall)
  | .notification => notification buff
  | .notification2 => notification2 buff
  | .dataConnReq => do
      let ipaddr ← buffGetInt buff
      let _ ← buffGetInt buff
      return [.agpsStatusCb (.requestDataConn ipaddr)]
  | .dataConnReq2 => do
      let addr ← buffGetStruct sizeofSockaddrStorage buff
      let _ ← buffGetInt buff
      return [.agpsStatusCb (.requestDataConnAddr addr)]
  | .dataConnRelease => return [.agpsStatusCb .releaseDataConn]
  | .requestSetId => do
      let flags ← buffGetInt buff
      return [.requestSetid flags]
  | .requestRefloc => do
      let flags ← buffGetInt buff
      return [.requestRefloc flags]
  | .agpsLoc => do
      let location ← buffGetStruct sizeofLocation buff
      return if env.locationCb then [.locationCb (gpsLocation location)] else []
  | .updateEpoFileDone =>
    return if ¬ env.epoDownloadFailed ∧ env.gpsEpoFileCount = 0 then [.unlinkEpoFileHal] else []
  | .updateEpoFileFail => return []
  | .injectTimeReq => return if env.requestUtcTimeCb then [.requestUtcTimeCb] else []
  | .injectLocationReq => return [.sendLocationToMnl]
  | .mnlDie => return [.statusCb .sessionEnd, .statusCb .engineOff, .releaseStopCondition,
      .releaseWakelockCb, .clearStartFlag]
  | .gpsIcon => do
      let status ← buffGetInt buff
      return gpsIcon env status
  | .measurement => measurement env buff
  | .navigation => navigation env buff

/-- `mnld_to_gps_handler`, once `safe_read` has put the datagram into `buff`. -/
def mnldToGpsHandler (env : HandlerEnv) (d : Datagram) : Except Fault (List HalCall × ℕ) :=
  (do
    let type ← buffGetInt d.bytes
    match MnldCmd.ofCode type with
    | some cmd => handle env d.bytes cmd
    | none => return []) 0

/-! ## Layouts -/

inductive Field where
  /-- An `int` or a struct. -/
  | block (size : ℕ)
  /-- A string behind its length, copied to an array of `size` bytes. -/
  | text (size : ℕ)
  /-- A string behind its length, shown in hexadecimal in an array of `size` bytes. -/
  | ascii (size : ℕ)
  /-- A `MTK_GPS_NAVIGATION_EVENT`, whose data are copied to a block that was allocated or not. -/
  | navigation (alloc : Bool)

def lenAt (d : List UInt8) (offset : ℕ) : ℕ := ofLeBytes (slice d offset 4)

def textAt (d : List UInt8) (offset : ℕ) : List UInt8 := slice d (offset + 4) (lenAt d offset)

def textLen (s : List UInt8) : ℕ := (s.takeWhile (· ≠ 0)).length

/-- The text is terminated, fits `ucs2_buff` with two bytes a character and the array with four. -/
def Displays (size : ℕ) (s : List UInt8) : Prop :=
  0 ∈ s ∧ 2 * textLen s + 5 ≤ 1024 ∧ 4 * textLen s + 4 ≤ size

instance (size : ℕ) (s : List UInt8) : Decidable (Displays size s) :=
  inferInstanceAs (Decidable (_ ∧ _ ∧ _))

namespace Field

def width (d : List UInt8) (offset : ℕ) : Field → ℕ
  | block size => size
  | text _ => 4 + lenAt d offset
  | ascii _ => 4 + lenAt d offset
  | navigation _ => sizeofNavigationEvent

/-- The field lies in the datagram and fits the variable it is copied to. -/
def Fits (d : List UInt8) (offset : ℕ) : Field → Prop
  | block size => offset + size ≤ d.length
  | text size => offset + (4 + lenAt d offset) ≤ d.length ∧ lenAt d offset ≤ size
  | ascii size => (offset + (4 + lenAt d offset) ≤ d.length ∧ lenAt d offset ≤ 1024)
      ∧ Displays size (textAt d offset)
  | navigation alloc => offset + sizeofNavigationEvent ≤ d.length
      ∧ navigationLength (slice d offset sizeofNavigationEvent) ≤ 40
      ∧ (alloc ∨ navigationLength (slice d offset sizeofNavigationEvent) = 0)

end Field

def Fit (d : List UInt8) : ℕ → List Field → Prop
  | _, [] => True
  | offset, f :: fs => f.Fits d offset ∧ Fit d (offset + f.width d offset) fs

def layout (env : HandlerEnv) : MnldCmd → List Field
  | .notification => [.block 4, .block 4, .ascii 256, .ascii 2048]
  | .notification2 => [.block 4, .block 4, .text 256, .text 2048, .block 4, .block 4]
  | .dataConnReq => [.block 4, .block 4]
  | .dataConnReq2 => [.block sizeofSockaddrStorage, .block 4]
  | .requestSetId => [.block 4]
  | .requestRefloc => [.block 4]
  | .agpsLoc => [.block sizeofLocation]
  | .gpsIcon => [.block 4]
  | .measurement =>
    if env.gpsmeasurementInitFlag then [.block (32 * sizeofMeasurement), .block sizeofClock] else []
  | .navigation =>
    if env.gpsnavigationInitFlag ∧ env.eventAlloc then [.navigation env.dataAlloc] else []
  | .dataConnRelease => []
  | .updateEpoFileDone => []
  | .updateEpoFileFail => []
  | .injectTimeReq => []
  | .injectLocationReq => []
  | .mnlDie => []

/-- The datagram holds its command, and the fields of the command fit. -/
def WellFormed (env : HandlerEnv) (d : List UInt8) : Prop :=
  Fit d 0 (.block 4 :: ((MnldCmd.ofCode (intOfBytes (slice d 0 4))).elim [] (layout env)))

/-! ## The getters stay in bounds -/

variable {d : List UInt8} {offset : ℕ}

lemma sizeT_intOfBytes {bs : List UInt8} (h : bs.length ≤ 4) : sizeT (intOfBytes bs) = ofLeBytes bs := by
  have hlt : ofLeBytes bs < 2 ^ 32 :=
    (ofLeBytes_lt bs).trans_le (Nat.pow_le_pow_right (by decide) h)
  have hval : intOfBytes bs % ((2 ^ 32 : ℕ) : ℤ) = ofLeBytes bs := by
    rw [intOfBytes, wrapInt]
    exact bmod_emod_natCast hlt
  have hcast : ((2 ^ 32 : ℕ) : ℤ) = 2 ^ 32 := by norm_num
  rw [hcast] at hval
  rw [sizeT, hval, Int.toNat_natCast]

variable {β : Type} {f : List UInt8 → Scan β} {size : ℕ} {input output : List UInt8}

lemma inBounds_memcpy_bind {bs : List UInt8} :
    InBounds (((memcpy size bs : Scan (List UInt8)) >>= f) offset) ↔
      bs.length ≤ size ∧ InBounds (f bs offset) := by
  rw [inBounds_lift_bind]
  unfold memcpy
  split_ifs with h
  · simp [h]
  · simp [h]

lemma inBounds_buffGetInt_bind {f : ℤ → Scan β} :
    InBounds ((buffGetInt d >>= f) offset) ↔
      (Field.block 4).Fits d offset ∧ InBounds (f (intOfBytes (slice d offset 4)) (offset + 4)) := by
  have hassoc : buffGetInt d >>= f = scan d 4 >>= fun bs => f (intOfBytes bs) := by
    rw [buffGetInt, bind_assoc]
    rfl
  rw [hassoc, inBounds_scan_bind]
  rfl

lemma inBounds_buffGetStruct_bind :
    InBounds ((buffGetStruct size d >>= f) offset) ↔
      (Field.block size).Fits d offset ∧ InBounds (f (slice d offset size) (offset + size)) := by
  rw [buffGetStruct, bind_assoc, inBounds_scan_bind, inBounds_memcpy_bind]
  constructor
  · exact fun h => ⟨h.1, h.2.2⟩
  · exact fun h => ⟨h.1, (length_slice h.1).le, h.2⟩

lemma inBounds_buffGetString_bind :
    InBounds ((buffGetString size d >>= f) offset) ↔
      (Field.text size).Fits d offset ∧
        InBounds (f (textAt d offset) (offset + (4 + lenAt d offset))) := by
  have hlen : (slice d offset 4).length ≤ 4 := List.length_take_le _ _
  rw [buffGetString, bind_assoc, inBounds_buffGetInt_bind, bind_assoc, inBounds_scan_bind,
    inBounds_memcpy_bind, sizeT_intOfBytes hlen, Nat.add_assoc]
  constructor
  · rintro ⟨-, hscan, hsize, hf⟩
    refine ⟨⟨hscan, ?_⟩, hf⟩
    rwa [length_slice (by rw [Nat.add_assoc]; exact hscan)] at hsize
  · rintro ⟨⟨hscan, hsize⟩, hf⟩
    refine ⟨?_, hscan, ?_, hf⟩
    · show offset + 4 ≤ d.length
      omega
    · rw [length_slice (by rw [Nat.add_assoc]; exact hscan)]
      exact hsize

/-! ## Texts in hexadecimal -/

lemma textLen_zero_cons (s : List UInt8) : textLen (0 :: s) = 0 := rfl

lemma textLen_cons {c : UInt8} (hc : c ≠ 0) (s : List UInt8) : textLen (c :: s) = textLen s + 1 := by
  rw [textLen, List.takeWhile_cons_of_pos (by simpa using hc), List.length_cons, textLen]

lemma ascLoop_zero (output input : List UInt8) (len : ℕ) : ascLoop output len (0 :: input) = .ok (output, len) := rfl

lemma ascLoop_cons {c : UInt8} (hc : c ≠ 0) (output input : List UInt8) (len : ℕ) :
    ascLoop output len (c :: input) = store output len [0] >>= fun output =>
      store output (len + 1) [c] >>= fun output => ascLoop output (len + 2) input := by
  rw [ascLoop, if_neg hc]

/-- The loop gets to the end of a string that is terminated and leaves room for two bytes a
character. -/
lemma inBounds_ascLoop {len : ℕ} (hlen : len ≤ output.length) :
    InBounds (ascLoop output len input) ↔
      0 ∈ input ∧ len + 2 * textLen input ≤ output.length := by
  induction input generalizing output len with
  | nil => simp [ascLoop]
  | cons c input ih =>
    by_cases hc : c = 0
    · subst hc
      rw [ascLoop_zero, textLen_zero_cons]
      simpa using hlen
    · rw [ascLoop_cons hc, textLen_cons hc, List.mem_cons, or_iff_right (Ne.symm hc)]
      rw [inBounds_store_pair_bind]
      constructor
      · rintro ⟨hroom, h⟩
        have hout := length_patch_pair hroom 0 c
        obtain ⟨hmem, hle⟩ := (ih (by omega)).mp h
        exact ⟨hmem, by omega⟩
      · rintro ⟨hmem, hle⟩
        have hroom : len + 2 ≤ output.length := by omega
        have hout := length_patch_pair hroom 0 c
        exact ⟨hroom, (ih (by omega)).mpr ⟨hmem, by omega⟩⟩

lemma ascLoop_eq_ok {output' : List UInt8} {len len' : ℕ} (h : ascLoop output len input = .ok (output', len')) :
    output'.length = output.length ∧ len' = len + 2 * textLen input := by
  induction input generalizing output len with
  | nil => cases h
  | cons c input ih =>
    by_cases hc : c = 0
    · subst hc
      cases h
      exact ⟨rfl, rfl⟩
    · rw [ascLoop_cons hc] at h
      obtain ⟨out₁, h₁, h⟩ := bind_eq_ok.mp h
      obtain ⟨out₂, h₂, h⟩ := bind_eq_ok.mp h
      obtain ⟨hout, hlen⟩ := ih h
      rw [textLen_cons hc]
      refine ⟨?_, by omega⟩
      rw [hout, length_of_store_eq_ok h₂, length_of_store_eq_ok h₁]

lemma inBounds_hexLoop {i : ℕ} (hi : 2 * i ≤ output.length) :
    InBounds (hexLoop output i input) ↔ 2 * (i + input.length) ≤ output.length := by
  induction input generalizing output i with
  | nil => simpa [hexLoop] using hi
  | cons b input ih =>
    rw [hexLoop, List.length_cons, inBounds_store_pair_bind]
    constructor
    · rintro ⟨hroom, h⟩
      have hout := length_patch_pair hroom (Hex.digit (b.toNat / 16)) (Hex.digit (b.toNat % 16))
      have hle := (ih (by omega)).mp h
      omega
    · intro hle
      have hroom : i * 2 + 2 ≤ output.length := by omega
      have hout := length_patch_pair hroom (Hex.digit (b.toNat / 16)) (Hex.digit (b.toNat % 16))
      exact ⟨hroom, (ih (by omega)).mpr (by omega)⟩

lemma inBounds_rawDataToHexString {n : ℕ} (hn : n ≤ input.length) :
    InBounds (rawDataToHexString output input n) ↔ 2 * n ≤ output.length := by
  have hlen : 0 + n ≤ input.length := by omega
  rw [rawDataToHexString, inBounds_load_bind, inBounds_hexLoop (Nat.zero_le _), length_slice hlen]
  constructor
  · intro h
    omega
  · intro h
    exact ⟨hlen, by omega⟩

lemma inBounds_ascStrToUsc2Str (houtput : output.length = 1024) :
    InBounds (ascStrToUsc2Str output input) ↔ 0 ∈ input ∧ 2 * textLen input + 5 ≤ 1024 := by
  have hroom : 0 + 2 ≤ output.length := by omega
  have hfront : (patch (patch output 0 [0xfe]) 1 [0xff]).length = 1024 :=
    (length_patch_pair hroom 0xfe 0xff).trans houtput
  rw [ascStrToUsc2Str, inBounds_store_pair_bind, inBounds_bind, Nat.zero_add 1]
  constructor
  · rintro ⟨-, ⟨out, len⟩, hloop, h⟩
    obtain ⟨hout, rfl⟩ := ascLoop_eq_ok hloop
    have hmem := ((inBounds_ascLoop (by omega)).mp ⟨_, hloop⟩).1
    have hend := (inBounds_store_pair_bind.mp h).1
    exact ⟨hmem, by omega⟩
  · rintro ⟨hmem, hle⟩
    obtain ⟨⟨out, len⟩, hloop⟩ := (inBounds_ascLoop (by omega)).mpr
      ⟨hmem, show 2 + 2 * textLen input ≤ (patch (patch output 0 [0xfe]) 1 [0xff]).length by omega⟩
    obtain ⟨hout, rfl⟩ := ascLoop_eq_ok hloop
    refine ⟨hroom, _, hloop, inBounds_store_pair_bind.mpr ⟨?_, inBounds_pure _⟩⟩
    omega

lemma ascStrToUsc2Str_eq_ok {output' : List UInt8} {len : ℕ} (h : ascStrToUsc2Str output input = .ok (output', len)) :
    output'.length = output.length ∧ len = 2 + 2 * textLen input := by
  obtain ⟨out₀, h₀, h⟩ := bind_eq_ok.mp h
  obtain ⟨out₁, h₁, h⟩ := bind_eq_ok.mp h
  obtain ⟨⟨out₂, len₂⟩, h₂, h⟩ := bind_eq_ok.mp h
  obtain ⟨out₃, h₃, h⟩ := bind_eq_ok.mp h
  obtain ⟨out₄, h₄, h⟩ := bind_eq_ok.mp h
  cases h
  obtain ⟨hout, hlen⟩ := ascLoop_eq_ok h₂
  refine ⟨?_, hlen⟩
  rw [length_of_store_eq_ok h₄, length_of_store_eq_ok h₃, hout, length_of_store_eq_ok h₁, length_of_store_eq_ok h₀]

/-- **A text is shown in hexadecimal** iff it is terminated and short enough for both arrays. -/
lemma inBounds_hexText : InBounds (hexText size input) ↔ Displays size input := by
  have hlen : ∀ n, (padded n []).length = n := fun n => length_padded (Nat.zero_le n)
  rw [hexText, inBounds_bind, Displays, ← and_assoc, ← @inBounds_ascStrToUsc2Str input (padded 1024 []) (hlen 1024)]
  constructor
  · rintro ⟨⟨out, len⟩, hasc, h⟩
    have hbound := ((inBounds_ascStrToUsc2Str (hlen 1024)).mp ⟨_, hasc⟩).2
    obtain ⟨hout, rfl⟩ := ascStrToUsc2Str_eq_ok hasc
    rw [hlen] at hout
    have hle := (inBounds_rawDataToHexString (by omega)).mp h
    rw [hlen] at hle
    exact ⟨⟨_, hasc⟩, by omega⟩
  · rintro ⟨⟨⟨out, len⟩, hasc⟩, hle⟩
    have hbound := ((inBounds_ascStrToUsc2Str (hlen 1024)).mp ⟨_, hasc⟩).2
    obtain ⟨hout, rfl⟩ := ascStrToUsc2Str_eq_ok hasc
    rw [hlen] at hout
    refine ⟨_, hasc, (inBounds_rawDataToHexString (by omega)).mpr ?_⟩
    rw [hlen]
    omega

/-! ## The commands stay in bounds -/

lemma inBounds_hexText_bind {P : Prop} (hf : ∀ bs, InBounds (f bs offset) ↔ P) :
    InBounds (((hexText size input : Scan (List UInt8)) >>= f) offset) ↔ Displays size input ∧ P := by
  rw [inBounds_lift_bind, ← inBounds_hexText]
  constructor
  · rintro ⟨bs, hbs, h⟩
    exact ⟨⟨bs, hbs⟩, (hf bs).mp h⟩
  · rintro ⟨⟨bs, hbs⟩, h⟩
    exact ⟨bs, hbs, (hf bs).mpr h⟩

lemma notification_inBounds (env : HandlerEnv) :
    InBounds (notification d offset) ↔ Fit d offset (layout env .notification) := by
  simp only [notification, inBounds_buffGetInt_bind, inBounds_buffGetString_bind]
  rw [inBounds_hexText_bind fun _ => inBounds_hexText_bind fun _ => iff_true_intro (inBounds_scan_pure _ _)]
  constructor
  · rintro ⟨h1, h2, h3, h4, h5, h6, -⟩
    exact ⟨h1, h2, ⟨h3, h5⟩, ⟨h4, h6⟩, trivial⟩
  · rintro ⟨h1, h2, ⟨h3, h5⟩, ⟨h4, h6⟩, -⟩
    exact ⟨h1, h2, h3, h4, h5, h6, trivial⟩

lemma navigation_inBounds (env : HandlerEnv) :
    InBounds (navigation env d offset) ↔ Fit d offset (layout env .navigation) := by
  unfold navigation
  by_cases henv : env.gpsnavigationInitFlag ∧ env.eventAlloc
  · rw [if_pos henv, inBounds_buffGetStruct_bind]
    simp only [layout, if_pos henv, Fit, Field.Fits, and_true]
    refine and_congr_right fun hfits => ?_
    have hdata : (slice (slice d offset sizeofNavigationEvent) 16 40).length = 40 :=
      length_slice (by rw [length_slice hfits]; decide)
    rw [inBounds_lift_load_bind, hdata, Nat.zero_add]
    refine and_congr_right fun hlen => ?_
    rw [inBounds_memcpy_bind, length_slice (by omega)]
    -- `malloc` gives a block of the declared length, or none at all
    cases env.dataAlloc with
    | true => simp
    | false => simp
  · simp only [layout, if_neg henv, Fit, inBounds_scan_pure]

/-- **A command stays in bounds** iff its fields fit. -/
lemma handle_inBounds (env : HandlerEnv) (cmd : MnldCmd) :
    InBounds (handle env d cmd offset) ↔ Fit d offset (layout env cmd) := by
  cases cmd with
  | notification => exact notification_inBounds env
  | navigation => exact navigation_inBounds env
  | measurement =>
    simp only [handle, measurement, layout]
    split_ifs with h
    · simp only [inBounds_buffGetStruct_bind, Fit, Field.width, inBounds_scan_pure]
    · simp [Fit]
  | notification2 =>
    simp only [handle, notification2, layout, inBounds_buffGetInt_bind, inBounds_buffGetString_bind,
      Fit, Field.width, inBounds_scan_pure]
  | dataConnReq =>
    simp only [handle, layout, inBounds_buffGetInt_bind, Fit, Field.width, inBounds_scan_pure]
  | dataConnReq2 =>
    simp only [handle, layout, inBounds_buffGetInt_bind, inBounds_buffGetStruct_bind, Fit, Field.width,
      inBounds_scan_pure]
  | requestSetId | requestRefloc | gpsIcon =>
    simp only [handle, layout, inBounds_buffGetInt_bind, Fit, inBounds_scan_pure]
  | agpsLoc =>
    simp only [handle, layout, inBounds_buffGetStruct_bind, Fit, inBounds_scan_pure]
  | dataConnRelease | updateEpoFileDone | updateEpoFileFail | injectTimeReq | injectLocationReq | mnlDie =>
    simp only [handle, layout, Fit, inBounds_scan_pure]

/-- **The handler stays in bounds**, loads from the datagram and stores to its variables, iff the datagram
fits the layout of its command. -/
theorem handler_inBounds_iff (env : HandlerEnv) (d : Datagram) :
    InBounds (mnldToGpsHandler env d) ↔ WellFormed env d.bytes := by
  rw [mnldToGpsHandler, inBounds_buffGetInt_bind, WellFormed, Fit]
  refine and_congr_right fun _ => ?_
  cases MnldCmd.ofCode (intOfBytes (slice d.bytes 0 4)) with
  | some cmd => exact handle_inBounds env cmd
  | none => simp [Fit]

/-- A requestor of 257 bytes and an empty text. -/
def longRequestor : Datagram where
  bytes := intBytes 236 ++ intBytes 1 ++ intBytes 1 ++ (intBytes 257 ++ List.replicate 257 65)
    ++ (intBytes 1 ++ [0]) ++ intBytes 3 ++ intBytes 3
  length_le := by decide +kernel

/-- Nothing is set, and `malloc` succeeds. -/
def idleEnv : HandlerEnv := ⟨false, false, 0, false, false, false, false, true, true⟩

/-- The requestor runs out of `requestor_id[256]`, into the text. -/
theorem requestor_overruns_array :
    mnldToGpsHandler idleEnv longRequestor = .error (.store 0 257 256)
      ∧ ¬ InBounds (mnldToGpsHandler idleEnv longRequestor) := by
  refine (and_iff_left_of_imp fun hrun => ?_).mpr (by decide +kernel)
  exact hrun ▸ not_inBounds_error _

end Hal.FromMnld
