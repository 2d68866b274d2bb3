import Mathlib.Algebra.Order.Ring.Int
import Mathlib.Data.List.Basic

/-!
# The payload of a SIM access request

A client of the SIM access profile calls one of eight functions.  Each fills in a message, lets nanopb
encode it into a buffer of the size nanopb asks for, and hands the buffer to
`addPayloadAndDispatchRequest`, which copies it into the payload of the request; whatever goes wrong on
the way is answered with `sendFailedResponse`.

The length of the buffer is a `size_t`.  It becomes a `uint16_t` on the way into
`addPayloadAndDispatchRequest`, and a `pb_size_t`, whose width is chosen when nanopb is compiled, in the
payload; the length of an APDU becomes a `pb_size_t` as well, before it is encoded.  None of these is
checked.

nanopb is not part of this repository: `Nanopb` is what is taken of it, an encoding of every message and
that a longer APDU takes more bytes.

* **`payload_complete_iff`** — when the payload is the complete encoding, or the client gets a failure.
-/

namespace Hal

open List

inductive SapMsgId where
  | connect
  | disconnect
  | apdu
  | transferAtr
  | power
  | resetSim
  | transferCardReaderStatus
  | setTransferProtocol

/-- The message structures that are encoded.  The command of an APDU is a pointer, `NULL` is `none`. -/
inductive SapMessage where
  | connectReq (maxMessageSize : ℤ)
  | disconnectReq
  | apduReq (type : ℕ) (command : Option (List UInt8))
  | transferAtrReq
  | powerReq (state : Bool)
  | resetSimReq
  | transferCardReaderStatusReq
  | setTransferProtocolReq (protocol : ℕ)

/-- `pb_get_encoded_size` and `pb_encode`: the encoding of a message, `none` where they report an error.
A bytes field is encoded with its length, so a longer command makes a longer message. -/
structure Nanopb where
  encode : SapMessage → Option (List UInt8)
  apdu_length_lt : ∀ {type : ℕ} {command longer bytes bytes' : List UInt8},
    command.length < longer.length → encode (.apduReq type (some command)) = some bytes →
      encode (.apduReq type (some longer)) = some bytes' → bytes.length < bytes'.length

/-- `SapResultCode`, the values used here. -/
inductive SapResultCode where
  | genericFailure
  | notSupported

/-- The calls of `ISapCallback` that `sendFailedResponse` makes. -/
inductive SapResponse where
  | connectFailure (token : ℤ) (maxMsgSize : ℤ)
  | disconnectResponse (token : ℤ)
  | apduResponse (token : ℤ) (code : SapResultCode) (apduRsp : List UInt8)
  | transferAtrResponse (token : ℤ) (code : SapResultCode) (atr : List UInt8)
  | powerResponse (token : ℤ) (code : SapResultCode)
  | resetSimResponse (token : ℤ) (code : SapResultCode)
  | transferCardReaderStatusResponse (token : ℤ) (code : SapResultCode) (status : ℤ)
  | transferProtocolResponse (token : ℤ) (code : SapResultCode)

/-- The response to a request that failed. -/
def SapMsgId.failedResponse (token : ℤ) : SapMsgId → SapResponse
  | .connect => .connectFailure token 0
  | .disconnect => .disconnectResponse token
  | .apdu => .apduResponse token .genericFailure []
  | .transferAtr => .transferAtrResponse token .genericFailure []
  | .power => .powerResponse token .genericFailure
  | .resetSim => .resetSimResponse token .genericFailure
  | .transferCardReaderStatus => .transferCardReaderStatusResponse token .genericFailure 0
  | .setTransferProtocol => .transferProtocolResponse token .notSupported

/-- What a request meets: the outcome of each allocation, whether the slot has a socket and a client, and
how many bits a `pb_size_t` has. -/
structure SapEnv where
  headerAllocated : Bool
  commandAllocated : Bool
  bufferAllocated : Bool
  payloadAllocated : Bool
  sapSocket : Bool
  sapCallback : Bool
  pbSizeBits : ℕ

/-- What comes of a request: a response, a payload handed to `dispatchRequest` with the message's id and
token, or a call through a callback that is `NULL`. -/
inductive SapOutcome where
  | responded (response : SapResponse)
  | dispatched (id : SapMsgId) (token : ℤ) (payload : List UInt8)
  | nullCallback

namespace SapEnv

def sendFailedResponse (env : SapEnv) (msgId : SapMsgId) (token : ℤ) : SapOutcome :=
  if env.sapCallback then .responded (msgId.failedResponse token) else .nullCallback

/-- `addPayloadAndDispatchRequest`.  The vendor library gets `payload->bytes` and `payload->size`. -/
def addPayloadAndDispatchRequest (env : SapEnv) (msgId : SapMsgId) (token : ℤ) (reqLen : ℕ)
    (reqPtr : List UInt8) : SapOutcome :=
  let reqLen := reqLen % 2 ^ 16
  if ¬ env.payloadAllocated then env.sendFailedResponse msgId token
  else if env.sapSocket then
    .dispatched msgId token ((reqPtr.take reqLen).take (reqLen % 2 ^ env.pbSizeBits))
  else env.sendFailedResponse msgId token

/-- What the eight functions do once the message is filled in. -/
def encodeAndDispatch (env : SapEnv) (pb : Nanopb) (msgId : SapMsgId) (token : ℤ) (req : SapMessage) : SapOutcome :=
  match pb.encode req with
  | none => env.sendFailedResponse msgId token
  | some buffer =>
    if ¬ env.bufferAllocated then env.sendFailedResponse msgId token
    else env.addPayloadAndDispatchRequest msgId token buffer.length buffer

/-- The functions that only fill in scalars. -/
def scalarReq (env : SapEnv) (pb : Nanopb) (msgId : SapMsgId) (token : ℤ) (req : SapMessage) : SapOutcome :=
  if ¬ env.headerAllocated then env.sendFailedResponse msgId token
  else env.encodeAndDispatch pb msgId token req

def connectReq (env : SapEnv) (pb : Nanopb) (token maxMsgSize : ℤ) : SapOutcome :=
  env.scalarReq pb .connect token (.connectReq maxMsgSize)

def disconnectReq (env : SapEnv) (pb : Nanopb) (token : ℤ) : SapOutcome :=
  env.scalarReq pb .disconnect token .disconnectReq

/-- The command as it stands in the message: its size is narrowed to a `pb_size_t`. -/
def storedCommand (env : SapEnv) (command : List UInt8) : Option (List UInt8) :=
  if command.length > 0 then some (command.take (command.length % 2 ^ env.pbSizeBits)) else none

def apduReq (env : SapEnv) (pb : Nanopb) (token : ℤ) (type : ℕ) (command : List UInt8) : SapOutcome :=
  if ¬ env.headerAllocated then env.sendFailedResponse .apdu token
  else if command.length > 0 ∧ ¬ env.commandAllocated then env.sendFailedResponse .apdu token
  else env.encodeAndDispatch pb .apdu token (.apduReq type (env.storedCommand command))

def transferAtrReq (env : SapEnv) (pb : Nanopb) (token : ℤ) : SapOutcome :=
  env.scalarReq pb .transferAtr token .transferAtrReq

def powerReq (env : SapEnv) (pb : Nanopb) (token : ℤ) (state : Bool) : SapOutcome :=
  env.scalarReq pb .power token (.powerReq state)

def resetSimReq (env : SapEnv) (pb : Nanopb) (token : ℤ) : SapOutcome :=
  env.scalarReq pb .resetSim token .resetSimReq

def transferCardReaderStatusReq (env : SapEnv) (pb : Nanopb) (token : ℤ) : SapOutcome :=
  env.scalarReq pb .transferCardReaderStatus token .transferCardReaderStatusReq

def setTransferProtocolReq (env : SapEnv) (pb : Nanopb) (token : ℤ) (transferProtocol : ℕ) : SapOutcome :=
  env.scalarReq pb .setTransferProtocol token (.setTransferProtocolReq transferProtocol)

end SapEnv

/-! ## All requests of a client -/

/-- A call of one of the eight functions. -/
inductive SapRequest where
  | connectReq (maxMsgSize : ℤ)
  | disconnectReq
  | apduReq (type : ℕ) (command : List UInt8)
  | transferAtrReq
  | powerReq (state : Bool)
  | resetSimReq
  | transferCardReaderStatusReq
  | setTransferProtocolReq (transferProtocol : ℕ)

namespace SapRequest

def msgId : SapRequest → SapMsgId
  | .connectReq _ => .connect
  | .disconnectReq => .disconnect
  | .apduReq _ _ => .apdu
  | .transferAtrReq => .transferAtr
  | .powerReq _ => .power
  | .resetSimReq => .resetSim
  | .transferCardReaderStatusReq => .transferCardReaderStatus
  | .setTransferProtocolReq _ => .setTransferProtocol

/-- The message of the client, complete. -/
def message : SapRequest → SapMessage
  | .connectReq maxMsgSize => .connectReq maxMsgSize
  | .disconnectReq => .disconnectReq
  | .apduReq type command => .apduReq type (if command.length > 0 then some command else none)
  | .transferAtrReq => .transferAtrReq
  | .powerReq state => .powerReq state
  | .resetSimReq => .resetSimReq
  | .transferCardReaderStatusReq => .transferCardReaderStatusReq
  | .setTransferProtocolReq transferProtocol => .setTransferProtocolReq transferProtocol

/-- The length of what is stored with a `pb_size_t`: only an APDU has a command. -/
def commandLength : SapRequest → ℕ
  | .apduReq _ command => command.length
  | _ => 0

def stored (env : SapEnv) : SapRequest → SapMessage
  | .apduReq type command => .apduReq type (env.storedCommand command)
  | r => r.message

def outcome (env : SapEnv) (pb : Nanopb) (token : ℤ) : SapRequest → SapOutcome
  | .connectReq maxMsgSize => env.connectReq pb token maxMsgSize
  | .disconnectReq => env.disconnectReq pb token
  | .apduReq type command => env.apduReq pb token type command
  | .transferAtrReq => env.transferAtrReq pb token
  | .powerReq state => env.powerReq pb token state
  | .resetSimReq => env.resetSimReq pb token
  | .transferCardReaderStatusReq => env.transferCardReaderStatusReq pb token
  | .setTransferProtocolReq transferProtocol => env.setTransferProtocolReq pb token transferProtocol

/-- Everything the request needs is there: the memory, the socket, and an encoding of the message. -/
def Proceeds (env : SapEnv) (pb : Nanopb) (r : SapRequest) : Prop :=
  env.headerAllocated ∧ (r.commandLength > 0 → env.commandAllocated) ∧ env.bufferAllocated
    ∧ env.payloadAllocated ∧ env.sapSocket ∧ (pb.encode (r.stored env)).isSome

/-- The lengths fit where they are narrowed. -/
def Fits (env : SapEnv) (pb : Nanopb) (r : SapRequest) : Prop :=
  r.commandLength < 2 ^ env.pbSizeBits ∧ ∀ bytes, pb.encode r.message = some bytes →
    bytes.length < 2 ^ 16 ∧ bytes.length < 2 ^ env.pbSizeBits

/-- The complete encoding is dispatched, or the client gets a failure and nothing is. -/
def Complete (env : SapEnv) (pb : Nanopb) (token : ℤ) (r : SapRequest) : Prop :=
  (∃ bytes, pb.encode r.message = some bytes
      ∧ r.outcome env pb token = .dispatched r.msgId token bytes)
    ∨ r.outcome env pb token = .responded (r.msgId.failedResponse token)

/-! ## The one way through -/

lemma outcome_eq (env : SapEnv) (pb : Nanopb) (token : ℤ) (r : SapRequest) :
    r.outcome env pb token
      = if env.headerAllocated ∧ (r.commandLength > 0 → env.commandAllocated) then
          env.encodeAndDispatch pb r.msgId token (r.stored env)
        else env.sendFailedResponse r.msgId token := by
  cases r with
  | apduReq type command =>
    cases hheader : env.headerAllocated <;> cases hcommand : env.commandAllocated <;>
      by_cases hlen : command.length > 0 <;>
        simp [outcome, SapEnv.apduReq, commandLength, msgId, stored, hheader, hcommand, hlen]
  | connectReq | disconnectReq | transferAtrReq | powerReq | resetSimReq
  | transferCardReaderStatusReq | setTransferProtocolReq =>
    cases hheader : env.headerAllocated <;>
      simp [outcome, SapEnv.connectReq, SapEnv.disconnectReq, SapEnv.transferAtrReq, SapEnv.powerReq,
        SapEnv.resetSimReq, SapEnv.transferCardReaderStatusReq, SapEnv.setTransferProtocolReq,
        SapEnv.scalarReq, commandLength, msgId, stored, message, hheader]

variable {r : SapRequest} {env : SapEnv} {pb : Nanopb}

lemma outcome_of_not_proceeds (token : ℤ)
    (h : ¬ r.Proceeds env pb) : r.outcome env pb token = env.sendFailedResponse r.msgId token := by
  rw [outcome_eq]
  by_cases hmemory : env.headerAllocated ∧ (r.commandLength > 0 → env.commandAllocated)
  · rw [if_pos hmemory, SapEnv.encodeAndDispatch]
    cases hencode : pb.encode (r.stored env) with
    | none => rfl
    | some bytes =>
      cases hbuffer : env.bufferAllocated <;> cases hpayload : env.payloadAllocated <;>
        cases hsocket : env.sapSocket <;>
          simp_all [Proceeds, SapEnv.addPayloadAndDispatchRequest]
  · rw [if_neg hmemory]

lemma outcome_of_proceeds {bytes : List UInt8}
    (token : ℤ) (h : r.Proceeds env pb) (hencode : pb.encode (r.stored env) = some bytes) :
    r.outcome env pb token
      = .dispatched r.msgId token (bytes.take (bytes.length % 2 ^ 16 % 2 ^ env.pbSizeBits)) := by
  obtain ⟨hheader, hcommand, hbuffer, hpayload, hsocket, -⟩ := h
  have hle : bytes.length % 2 ^ 16 % 2 ^ env.pbSizeBits ≤ bytes.length % 2 ^ 16 := Nat.mod_le _ _
  rw [outcome_eq, if_pos ⟨hheader, hcommand⟩, SapEnv.encodeAndDispatch]
  simp only [hencode, hbuffer, hpayload, hsocket, SapEnv.addPayloadAndDispatchRequest,
    not_true_eq_false, if_false, if_true]
  rw [take_take, Nat.min_eq_left hle]

lemma stored_eq_message (h : r.commandLength < 2 ^ env.pbSizeBits) : r.stored env = r.message := by
  cases r with
  | apduReq type command =>
    have hlength : command.length % 2 ^ env.pbSizeBits = command.length := Nat.mod_eq_of_lt h
    simp [stored, message, SapEnv.storedCommand, hlength]
  | connectReq | disconnectReq | transferAtrReq | powerReq | resetSimReq
  | transferCardReaderStatusReq | setTransferProtocolReq => rfl

/-- A command that is too long is cut, and what is encoded is shorter than the message. -/
lemma length_lt_of_cut {bytes complete : List UInt8}
    (h : ¬ r.commandLength < 2 ^ env.pbSizeBits) (hstored : pb.encode (r.stored env) = some bytes)
    (hcomplete : pb.encode r.message = some complete) : bytes.length < complete.length := by
  have hpow : 0 < 2 ^ env.pbSizeBits := Nat.two_pow_pos _
  cases r with
  | apduReq type command =>
    have hlen : 2 ^ env.pbSizeBits ≤ command.length := Nat.not_lt.mp h
    have hpos : command.length > 0 := by omega
    simp only [stored, SapEnv.storedCommand, if_pos hpos] at hstored
    simp only [message, if_pos hpos] at hcomplete
    refine pb.apdu_length_lt ?_ hstored hcomplete
    rw [length_take]
    omega
  | connectReq | disconnectReq | transferAtrReq | powerReq | resetSimReq
  | transferCardReaderStatusReq | setTransferProtocolReq => exact absurd hpow h

lemma complete_iff_of_proceeds (token : ℤ) (h : r.Proceeds env pb) : r.Complete env pb token ↔ r.Fits env pb := by
  obtain ⟨bytes, hbytes⟩ := Option.isSome_iff_exists.mp h.2.2.2.2.2
  have houtcome := outcome_of_proceeds token h hbytes
  have hcomplete : r.Complete env pb token ↔ ∃ complete, pb.encode r.message = some complete
      ∧ bytes.take (bytes.length % 2 ^ 16 % 2 ^ env.pbSizeBits) = complete := by
    rw [Complete, houtcome]
    simp
  rw [hcomplete]
  constructor
  · rintro ⟨complete, hmessage, htake⟩
    have hfits : r.commandLength < 2 ^ env.pbSizeBits := by
      by_contra hcut
      have hlt := length_lt_of_cut hcut hbytes hmessage
      have hle : (bytes.take (bytes.length % 2 ^ 16 % 2 ^ env.pbSizeBits)).length ≤ bytes.length := by
        rw [length_take]
        exact Nat.min_le_right _ _
      rw [htake] at hle
      omega
    refine ⟨hfits, fun bytes' hbytes' => ?_⟩
    rw [stored_eq_message hfits, hbytes'] at hbytes
    rw [hbytes'] at hmessage
    cases hmessage
    -- nothing was cut off, so the narrowed length is the length
    have hlength := congrArg List.length htake
    rw [length_take] at hlength
    have hmod : bytes.length % 2 ^ 16 % 2 ^ env.pbSizeBits ≤ bytes.length % 2 ^ 16 := Nat.mod_le _ _
    omega
  · rintro ⟨hfits, hlengths⟩
    rw [stored_eq_message hfits] at hbytes
    obtain ⟨h16, hpb⟩ := hlengths bytes hbytes
    refine ⟨bytes, hbytes, ?_⟩
    rw [Nat.mod_eq_of_lt h16, Nat.mod_eq_of_lt hpb, take_length]

end SapRequest

/-- **When the payload is complete.**  A request for which the memory, the socket and an encoding are
there is dispatched, with the complete encoding iff the lengths fit the types they are narrowed to; any
other is answered with a failure iff the client has set a callback. -/
theorem payload_complete_iff (env : SapEnv) (pb : Nanopb) (token : ℤ) (r : SapRequest) :
    r.Complete env pb token
      ↔ (r.Proceeds env pb → r.Fits env pb) ∧ (¬ r.Proceeds env pb → env.sapCallback) := by
  by_cases h : r.Proceeds env pb
  · rw [SapRequest.complete_iff_of_proceeds token h]
    simp [h]
  · have houtcome := SapRequest.outcome_of_not_proceeds token h
    rw [SapRequest.Complete, houtcome, SapEnv.sendFailedResponse]
    cases hcallback : env.sapCallback <;> simp [h]

/-! ## An APDU of 65536 bytes -/

/-- A number in groups of seven bits, the lowest first; all groups but the last are marked. -/
def varint : ℕ → ℕ → List UInt8
  | 0, _ => []
  | digits + 1, n =>
    if n < 128 then [UInt8.ofNat n] else UInt8.ofNat (n % 128 + 128) :: varint digits (n / 128)

lemma length_varint_le (digits : ℕ) {n m : ℕ} (h : n ≤ m) : (varint digits n).length ≤ (varint digits m).length := by
  induction digits generalizing n m with
  | zero => exact Nat.le_refl 0
  | succ digits ih =>
    have hdiv : n / 128 ≤ m / 128 := Nat.div_le_div_right h
    have hrest := ih hdiv
    by_cases hn : n < 128
    · by_cases hm : m < 128 <;> simp [varint, hn, hm]
    · have hm : ¬ m < 128 := by omega
      simpa [varint, hn, hm] using hrest

/-- The wire format of the messages: scalars in field 1, the command in field 2 with its length.  A
command that is `NULL` is a required field that is missing. -/
def wireEncode : SapMessage → Option (List UInt8)
  | .connectReq maxMessageSize => some (0x08 :: varint 10 (maxMessageSize % 2 ^ 64).toNat)
  | .disconnectReq => some []
  | .apduReq _ none => none
  | .apduReq type (some command) =>
    some (0x08 :: varint 10 type ++ 0x12 :: varint 10 command.length ++ command)
  | .transferAtrReq => some []
  | .powerReq state => some [0x08, if state then 1 else 0]
  | .resetSimReq => some []
  | .transferCardReaderStatusReq => some []
  | .setTransferProtocolReq protocol => some (0x08 :: varint 10 protocol)

/-- nanopb on the messages of the profile. -/
def sapNanopb : Nanopb where
  encode := wireEncode
  apdu_length_lt := by
    intro type command longer bytes bytes' hlt hbytes hbytes'
    cases hbytes
    cases hbytes'
    have hle := length_varint_le 10 (Nat.le_of_lt hlt)
    simp only [length_append, length_cons]
    omega

/-- Everything is there; a `pb_size_t` has 32 bits. -/
def plentyEnv : SapEnv := ⟨true, true, true, true, true, true, 32⟩

/-- An APDU of as many bytes as a `uint16_t` counts before it is back at zero. -/
def longApdu : SapRequest := .apduReq 0 (List.replicate 65536 0)

lemma encode_longApdu :
    sapNanopb.encode longApdu.message
      = some ([0x08, 0x00, 0x12, 0x80, 0x80, 0x04] ++ List.replicate 65536 0) := by
  have htype : varint 10 0 = [0x00] := by decide
  have hlength : varint 10 65536 = [0x80, 0x80, 0x04] := by decide
  simp only [longApdu, SapRequest.message, sapNanopb, length_replicate, Nat.zero_lt_succ, gt_iff_lt,
    if_true, wireEncode, htype, hlength]
  rfl

/-- **The defect**: of such an APDU the vendor library gets six bytes, which announce the command and
hold nothing of it. -/
theorem long_apdu_cut :
    longApdu.outcome plentyEnv sapNanopb 7
        = .dispatched .apdu 7 [0x08, 0x00, 0x12, 0x80, 0x80, 0x04]
      ∧ ¬ longApdu.Complete plentyEnv sapNanopb 7 := by
  have hcommand : longApdu.commandLength < 2 ^ plentyEnv.pbSizeBits := by
    rw [longApdu, SapRequest.commandLength, length_replicate]
    decide
  have hencode : sapNanopb.encode (longApdu.stored plentyEnv)
      = some ([0x08, 0x00, 0x12, 0x80, 0x80, 0x04] ++ List.replicate 65536 0) := by
    rw [SapRequest.stored_eq_message hcommand, encode_longApdu]
  have hproceeds : longApdu.Proceeds plentyEnv sapNanopb :=
    ⟨rfl, fun _ => rfl, rfl, rfl, rfl, by rw [hencode]; rfl⟩
  constructor
  · have hcut : (([0x08, 0x00, 0x12, 0x80, 0x80, 0x04] : List UInt8).length + 65536) % 2 ^ 16
        % 2 ^ plentyEnv.pbSizeBits = ([0x08, 0x00, 0x12, 0x80, 0x80, 0x04] : List UInt8).length := by
      decide
    rw [SapRequest.outcome_of_proceeds 7 hproceeds hencode, length_append, length_replicate, hcut, take_left]
    rfl
  · rw [SapRequest.complete_iff_of_proceeds 7 hproceeds]
    rintro ⟨-, hlengths⟩
    have h16 := (hlengths _ encode_longApdu).1
    rw [length_append, length_replicate] at h16
    revert h16
    decide

end Hal
