import DeviceHal.Gps.FromMnld

/-!
# Messages to `mnld`

The AGPS, certificate, network-initiated and AGPS-RIL interfaces of the GPS HAL each encode their arguments
into a message of 1024 bytes with `buff_put_int`, `buff_put_string`, `buff_put_binary` and
`buff_put_struct`, and send the whole buffer.

**The defect.**  The putters do not know the size of the buffer, and no encoder looks at the length of its
arguments.

* `Sent`, `messages` — what a call is to send, field by field, and `encode`, the bytes of a message.
* **`client_sends_iff`** — a call sends the encoding of its fields **iff** it is no longer than the buffer.
-/

namespace Hal.ToMnld

open List Writer FromMnld

/-- The codes of the commands that the interfaces send. -/
inductive AgpsInfo where
  | dataConnOpen
  | dataConnFailed
  | dataConnClosed
  | niMessage
  | niRespond
  | setRefLoc
  | setSetId
  | setServer
  | updateNetworkState
  | updateNetworkAvailability
  | dataConnOpenIpType
  | installCertificates
  | revokeCertificates
  | nlpLocationReq

/-- `AGPS_FRAMEWORK_INFO_...`, and `MNL_CMD_GPS_NLP_LOCATION_REQ`. -/
def AgpsInfo.code : AgpsInfo → ℤ
  | dataConnOpen => 125
  | dataConnFailed => 126
  | dataConnClosed => 127
  | niMessage => 128
  | niRespond => 129
  | setRefLoc => 130
  | setSetId => 131
  | setServer => 132
  | updateNetworkState => 133
  | updateNetworkAvailability => 134
  | dataConnOpenIpType => 135
  | installCertificates => 136
  | revokeCertificates => 137
  | nlpLocationReq => 0x4a

/-! ## Arguments -/

/-- A string of a client, without its terminator. -/
structure CString where
  chars : List UInt8
  zero_notMem : 0 ∉ chars
  length_lt : chars.length + 1 < 2 ^ 32

/-- The bytes behind a pointer, as many as the length given with it. -/
structure CBlock where
  bytes : List UInt8
  length_lt : bytes.length < 2 ^ 32

/-- An array of `length` structs of `size` bytes. -/
structure CArray (size : ℕ) where
  length : ℕ
  bytes : List UInt8
  length_bytes : bytes.length = size * length
  length_lt : bytes.length < 2 ^ 32

/-- `sizeof(AGpsRefLocation)`. -/
def sizeofRefLocation : ℕ := 20

structure RefLocation where
  bytes : List UInt8
  length_bytes : bytes.length = sizeofRefLocation

/-- `sizeof(DerEncodedCertificate)`, a length and a pointer. -/
def sizeofCertificate : ℕ := 8

/-- `sizeof(Sha1CertificateFingerprint)`. -/
def sizeofFingerprint : ℕ := 20

/-! ## The putters -/

def messageSize : ℕ := 1024

def buffPutInt (input : ℤ) : Writer → Except Fault Writer := put (intBytes input)

def buffPutCode (info : AgpsInfo) : Writer → Except Fault Writer := buffPutInt info.code

/-- `memcpy` of `len` bytes from `input` to the offset.  An `int` length is taken for a `size_t`. -/
def putCopy (input : List UInt8) (len : ℤ) (w : Writer) : Except Fault Writer :=
  load input 0 (sizeT len) >>= fun bs => put bs w

def buffPutString (str : CString) : Writer → Except Fault Writer :=
  let len : ℤ := str.chars.length + 1
  buffPutInt len >=> putCopy (str.chars ++ [0]) len

def buffPutBinary (input : List UInt8) (len : ℤ) : Writer → Except Fault Writer :=
  buffPutInt len >=> putCopy input len

def buffPutStruct (input : List UInt8) (size : ℤ) : Writer → Except Fault Writer := putCopy input size

/-- The putters of an encoder write to a fresh buffer, which `mtk_daemon_send` then sends. -/
def sendBuff (op : Writer → Except Fault Writer) : Except Fault (List UInt8) :=
  op (filled messageSize []) >>= fun w => .ok w.buff

/-! ## The encoders -/

def agpsDataConnOpen (apn : CString) : Except Fault (List UInt8) :=
  sendBuff (buffPutCode .dataConnOpen >=> buffPutString apn)

def agpsDataConnOpenWithApnIpType (apn : CString) (apnIpType : ℤ) : Except Fault (List UInt8) :=
  sendBuff (buffPutCode .dataConnOpenIpType >=> buffPutString apn >=> buffPutInt apnIpType)

def agpsDataConnClosed : Except Fault (List UInt8) := sendBuff (buffPutCode .dataConnClosed)

def agpsDataConnFailed : Except Fault (List UInt8) := sendBuff (buffPutCode .dataConnFailed)

def agpsSetServer (type : ℤ) (hostname : CString) (port : ℤ) : Except Fault (List UInt8) :=
  sendBuff (buffPutCode .setServer >=> buffPutInt type >=> buffPutString hostname >=> buffPutInt port)

/-- Copies as many bytes of the array as it has elements. -/
def agpsInstallCertificates (certificates : CArray sizeofCertificate) : Except Fault (List UInt8) :=
  sendBuff (buffPutCode .installCertificates >=> buffPutInt certificates.length >=>
    buffPutStruct certificates.bytes certificates.length)

def agpsRevokeCertificates (fingerprints : CArray sizeofFingerprint) : Except Fault (List UInt8) :=
  sendBuff (buffPutCode .revokeCertificates >=> buffPutInt fingerprints.length >=>
    buffPutStruct fingerprints.bytes fingerprints.length)

def gpsNiRespond (notifId userResponse : ℤ) : Except Fault (List UInt8) :=
  sendBuff (buffPutCode .niRespond >=> buffPutInt notifId >=> buffPutInt userResponse)

def agpsRilSetRefLocation (reflocation : RefLocation) (szStruct : ℤ) : Except Fault (List UInt8) :=
  sendBuff (buffPutCode .setRefLoc >=> buffPutStruct reflocation.bytes sizeofRefLocation >=> buffPutInt szStruct)

def agpsRilSetSetId (type : ℤ) (setid : CString) : Except Fault (List UInt8) :=
  sendBuff (buffPutCode .setSetId >=> buffPutInt type >=> buffPutString setid)

def agpsRilNiMessage (msg : CBlock) : Except Fault (List UInt8) :=
  sendBuff (buffPutCode .niMessage >=> buffPutBinary msg.bytes msg.bytes.length)

def agpsNetworkConnectedWifiTraggerNlp : Except Fault (List UInt8) := sendBuff (buffPutCode .nlpLocationReq)

def CString.empty : CString := ⟨[], by simp, by simp⟩

structure NetState where
  nwConnected : ℤ
  nwType : ℤ
deriving DecidableEq

/-- A connection to WiFi that was not there before. -/
def NetState.ConnectsWifi (s : NetState) (connected type : ℤ) : Prop :=
  s.nwConnected = 0 ∧ connected = 1 ∧ type = 1

instance (s : NetState) (connected type : ℤ) : Decidable (s.ConnectsWifi connected type) :=
  inferInstanceAs (Decidable (_ ∧ _ ∧ _))

/-- A connection to WiFi also asks for a network location. -/
def wifiNlp (s : NetState) (connected type : ℤ) : Except Fault (List (List UInt8)) :=
  if s.ConnectsWifi connected type then agpsNetworkConnectedWifiTraggerNlp >>= fun msg => .ok [msg]
  else .ok []

def agpsRilUpdateNetworkState (s : NetState) (connected type roaming : ℤ) (extraInfo : Option CString) :
    Except Fault (NetState × List (List UInt8)) := do
  let nlp ← wifiNlp s connected type
  let msg ← sendBuff (buffPutCode .updateNetworkState >=> buffPutInt connected >=> buffPutInt type >=> buffPutInt roaming
    >=> buffPutString (extraInfo.getD .empty))
  return (⟨connected, type⟩, nlp ++ [msg])

def agpsRilUpdateNetworkAvailability (avaiable : ℤ) (apn : Option CString) : Except Fault (List UInt8) :=
  sendBuff (buffPutCode .updateNetworkAvailability >=> buffPutInt avaiable >=> buffPutString (apn.getD .empty))

/-- A call of a client through one of the interfaces. -/
inductive ClientCall where
  | dataConnOpen (apn : CString)
  | dataConnOpenWithApnIpType (apn : CString) (apnIpType : ℤ)
  | dataConnClosed
  | dataConnFailed
  | setServer (type : ℤ) (hostname : CString) (port : ℤ)
  | installCertificates (certificates : CArray sizeofCertificate)
  | revokeCertificates (fingerprints : CArray sizeofFingerprint)
  | niRespond (notifId userResponse : ℤ)
  | setRefLocation (reflocation : RefLocation) (szStruct : ℤ)
  | setSetId (type : ℤ) (setid : CString)
  | niMessage (msg : CBlock)
  | updateNetworkState (connected type roaming : ℤ) (extraInfo : Option CString)
  | updateNetworkAvailability (avaiable : ℤ) (apn : Option CString)

/-- An encoder that sends one message and leaves the state alone. -/
def single (s : NetState) (msg : Except Fault (List UInt8)) : Except Fault (NetState × List (List UInt8)) :=
  msg >>= fun bs => .ok (s, [bs])

def client (s : NetState) : ClientCall → Except Fault (NetState × List (List UInt8))
  | .dataConnOpen apn => single s (agpsDataConnOpen apn)
  | .dataConnOpenWithApnIpType apn ipType => single s (agpsDataConnOpenWithApnIpType apn ipType)
  | .dataConnClosed => single s agpsDataConnClosed
  | .dataConnFailed => single s agpsDataConnFailed
  | .setServer type hostname port => single s (agpsSetServer type hostname port)
  | .installCertificates certificates => single s (agpsInstallCertificates certificates)
  | .revokeCertificates fingerprints => single s (agpsRevokeCertificates fingerprints)
  | .niRespond notifId userResponse => single s (gpsNiRespond notifId userResponse)
  | .setRefLocation reflocation szStruct => single s (agpsRilSetRefLocation reflocation szStruct)
  | .setSetId type setid => single s (agpsRilSetSetId type setid)
  | .niMessage msg => single s (agpsRilNiMessage msg)
  | .updateNetworkState connected type roaming extraInfo =>
    agpsRilUpdateNetworkState s connected type roaming extraInfo
  | .updateNetworkAvailability avaiable apn => single s (agpsRilUpdateNetworkAvailability avaiable apn)

/-! ## Messages -/

inductive Sent where
  | code (info : AgpsInfo)
  | int (x : ℤ)
  | string (s : CString)
  | binary (bs : List UInt8)
  | struct (bs : List UInt8)

/-- A string and a binary block stand behind their length, a string with its terminator. -/
def Sent.bytes : Sent → List UInt8
  | code info => intBytes info.code
  | int x => intBytes x
  | string s => intBytes (s.chars.length + 1) ++ (s.chars ++ [0])
  | binary bs => intBytes bs.length ++ bs
  | struct bs => bs

def encode (fields : List Sent) : List UInt8 := fields.flatMap Sent.bytes

/-- The messages a call is to send: the code of the command, then its arguments. -/
def messages (s : NetState) : ClientCall → List (List Sent)
  | .dataConnOpen apn => [[.code .dataConnOpen, .string apn]]
  | .dataConnOpenWithApnIpType apn ipType => [[.code .dataConnOpenIpType, .string apn, .int ipType]]
  | .dataConnClosed => [[.code .dataConnClosed]]
  | .dataConnFailed => [[.code .dataConnFailed]]
  | .setServer type hostname port => [[.code .setServer, .int type, .string hostname, .int port]]
  | .installCertificates certificates =>
    [[.code .installCertificates, .int certificates.length, .struct (certificates.bytes.take certificates.length)]]
  | .revokeCertificates fingerprints =>
    [[.code .revokeCertificates, .int fingerprints.length, .struct (fingerprints.bytes.take fingerprints.length)]]
  | .niRespond notifId userResponse => [[.code .niRespond, .int notifId, .int userResponse]]
  | .setRefLocation reflocation szStruct => [[.code .setRefLoc, .struct reflocation.bytes, .int szStruct]]
  | .setSetId type setid => [[.code .setSetId, .int type, .string setid]]
  | .niMessage msg => [[.code .niMessage, .binary msg.bytes]]
  | .updateNetworkState connected type roaming extraInfo =>
    (if s.ConnectsWifi connected type then [[.code .nlpLocationReq]] else []) ++
      [[.code .updateNetworkState, .int connected, .int type, .int roaming, .string (extraInfo.getD .empty)]]
  | .updateNetworkAvailability avaiable apn => [[.code .updateNetworkAvailability, .int avaiable, .string (apn.getD .empty)]]

def NetState.after (s : NetState) : ClientCall → NetState
  | .updateNetworkState connected type _ _ => ⟨connected, type⟩
  | _ => s

/-! ## The putters append -/

lemma sizeT_natCast {n : ℕ} (h : n < 2 ^ 32) : sizeT n = n := by
  rw [sizeT, Int.emod_eq_of_lt (Int.natCast_nonneg n) (by exact_mod_cast h), Int.toNat_natCast]

lemma puts_int (x : ℤ) : Puts messageSize (buffPutInt x) (Sent.int x).bytes := puts_put (intBytes x)

lemma puts_code (info : AgpsInfo) : Puts messageSize (buffPutCode info) (Sent.code info).bytes :=
  puts_put (intBytes info.code)

lemma puts_copy {input : List UInt8} {n : ℕ} (hn : n ≤ input.length) (hlt : n < 2 ^ 32) :
    Puts messageSize (putCopy input n) (input.take n) := by
  have hcopy : putCopy input n = put (input.take n) := by
    funext w
    rw [putCopy, sizeT_natCast hlt, load, if_pos (by omega)]
    rfl
  exact hcopy ▸ puts_put (input.take n)

lemma puts_string (s : CString) : Puts messageSize (buffPutString s) (Sent.string s).bytes := by
  have hcopy : Puts messageSize (putCopy (s.chars ++ [0]) ((s.chars.length + 1 : ℕ) : ℤ))
      ((s.chars ++ [0]).take (s.chars.length + 1)) :=
    puts_copy (by simp) s.length_lt
  rw [take_of_length_le (by simp)] at hcopy
  exact (puts_int _).seq (by exact_mod_cast hcopy)

lemma puts_binary (msg : CBlock) :
    Puts messageSize (buffPutBinary msg.bytes msg.bytes.length) (Sent.binary msg.bytes).bytes := by
  have hcopy := puts_copy le_rfl msg.length_lt
  rw [take_length] at hcopy
  exact (puts_int _).seq hcopy

lemma puts_refLocation (l : RefLocation) :
    Puts messageSize (buffPutStruct l.bytes sizeofRefLocation) (Sent.struct l.bytes).bytes := by
  have hcopy := puts_copy l.length_bytes.ge (show sizeofRefLocation < 2 ^ 32 by decide)
  rwa [take_of_length_le l.length_bytes.le] at hcopy

lemma puts_array {size : ℕ} (hsize : 0 < size) (a : CArray size) :
    Puts messageSize (buffPutStruct a.bytes a.length) (Sent.struct (a.bytes.take a.length)).bytes := by
  have hle : a.length ≤ a.bytes.length := by
    rw [a.length_bytes]
    exact Nat.le_mul_of_pos_left _ hsize
  exact puts_copy hle (hle.trans_lt a.length_lt)

/-! ## The encoders send their fields -/

/-- The message is the encoding of the fields where it fits the buffer, and a fault where it does not. -/
def Sends (msg : Except Fault (List UInt8)) (fields : List Sent) : Prop :=
  ((encode fields).length ≤ messageSize → msg = .ok (padded messageSize (encode fields)))
    ∧ (¬ (encode fields).length ≤ messageSize → ¬ InBounds msg)

variable {op : Writer → Except Fault Writer}

lemma puts_last {f : Sent} (h : Puts messageSize op f.bytes) : Puts messageSize op (encode [f]) := by
  have hencode : encode [f] = f.bytes := append_nil f.bytes
  exact hencode ▸ h

variable {fields : List Sent}

lemma puts_next {op' : Writer → Except Fault Writer} {f : Sent}
    (h : Puts messageSize op f.bytes) (h' : Puts messageSize op' (encode fields)) :
    Puts messageSize (op >=> op') (encode (f :: fields)) := h.seq h'

lemma sends_of_puts (h : Puts messageSize op (encode fields)) : Sends (sendBuff op) fields := by
  obtain ⟨hfit, hfault⟩ := h [] (Nat.zero_le _)
  refine ⟨fun hle => ?_, fun hle hsend => ?_⟩
  · rw [sendBuff, hfit hle]
    rfl
  · obtain ⟨w, hw, -⟩ := inBounds_bind.mp hsend
    exact hfault hle ⟨w, hw⟩

/-- The call sends what it is to send, each message padded to the size of the buffer. -/
def Exactly (s : NetState) (c : ClientCall) : Prop :=
  client s c = .ok (s.after c, (messages s c).map fun fields => padded messageSize (encode fields))

lemma Sends.exactly_iff {msg : Except Fault (List UInt8)} (h : Sends msg fields)
    {s : NetState} {c : ClientCall} (hclient : client s c = single s msg)
    (hmessages : messages s c = [fields]) (hafter : s.after c = s) :
    Exactly s c ↔ ∀ fields ∈ messages s c, (encode fields).length ≤ messageSize := by
  rw [Exactly, hclient, hmessages, hafter, map_singleton]
  simp only [mem_singleton, forall_eq]
  constructor
  · intro hok
    by_contra hle
    obtain ⟨bs, hbs, -⟩ := bind_eq_ok.mp hok
    exact h.2 hle ⟨bs, hbs⟩
  · intro hle
    rw [h.1 hle]
    rfl

lemma updateNetworkState_sends (connected type roaming : ℤ) (extraInfo : Option CString) :
    Sends (sendBuff (buffPutCode .updateNetworkState >=> buffPutInt connected >=> buffPutInt type
        >=> buffPutInt roaming >=> buffPutString (extraInfo.getD .empty)))
      [.code .updateNetworkState, .int connected, .int type, .int roaming,
        .string (extraInfo.getD .empty)] :=
  sends_of_puts (puts_next (puts_code _) (puts_next (puts_int _) (puts_next (puts_int _)
    (puts_next (puts_int _) (puts_last (puts_string _))))))

lemma nlp_sends : agpsNetworkConnectedWifiTraggerNlp =
    .ok (padded messageSize (encode [.code .nlpLocationReq])) :=
  (sends_of_puts (puts_last (puts_code .nlpLocationReq))).1 (by decide)

lemma updateNetworkState_exactly_iff (s : NetState) (connected type roaming : ℤ) (extraInfo : Option CString) :
    Exactly s (.updateNetworkState connected type roaming extraInfo) ↔
      ∀ fields ∈ messages s (.updateNetworkState connected type roaming extraInfo),
        (encode fields).length ≤ messageSize := by
  have hstate := updateNetworkState_sends connected type roaming extraInfo
  have hnlp : (encode [.code .nlpLocationReq]).length ≤ messageSize := by decide
  unfold Exactly
  simp only [client, messages, agpsRilUpdateNetworkState]
  constructor
  · intro hok fields hfields
    obtain ⟨nlp, -, hok⟩ := bind_eq_ok.mp hok
    obtain ⟨msg, hmsg, -⟩ := bind_eq_ok.mp hok
    rcases mem_append.mp hfields with hmem | hmem
    · split_ifs at hmem
      · rwa [mem_singleton.mp hmem]
      · exact absurd hmem not_mem_nil
    · rw [mem_singleton.mp hmem]
      by_contra hle
      exact hstate.2 hle ⟨msg, hmsg⟩
  · intro hle
    rw [hstate.1 (hle _ (mem_append_right _ (mem_singleton_self _)))]
    unfold wifiNlp
    split_ifs
    · rw [nlp_sends]
      rfl
    · rfl

/-- **A call sends exactly the encoding of its fields** iff each of its messages fits the buffer. -/
theorem client_sends_iff (s : NetState) (c : ClientCall) :
    Exactly s c ↔ ∀ fields ∈ messages s c, (encode fields).length ≤ messageSize := by
  cases c with
  | dataConnOpen apn =>
    exact (sends_of_puts (puts_next (puts_code _) (puts_last (puts_string apn)))).exactly_iff
      rfl rfl rfl
  | dataConnOpenWithApnIpType apn ipType =>
    exact (sends_of_puts (puts_next (puts_code _) (puts_next (puts_string apn)
      (puts_last (puts_int ipType))))).exactly_iff rfl rfl rfl
  | dataConnClosed | dataConnFailed => exact (sends_of_puts (puts_last (puts_code _))).exactly_iff rfl rfl rfl
  | setServer type hostname port =>
    exact (sends_of_puts (puts_next (puts_code _) (puts_next (puts_int type)
      (puts_next (puts_string hostname) (puts_last (puts_int port)))))).exactly_iff rfl rfl rfl
  | installCertificates certificates =>
    exact (sends_of_puts (puts_next (puts_code _) (puts_next (puts_int certificates.length)
      (puts_last (puts_array (by decide) certificates))))).exactly_iff rfl rfl rfl
  | revokeCertificates fingerprints =>
    exact (sends_of_puts (puts_next (puts_code _) (puts_next (puts_int fingerprints.length)
      (puts_last (puts_array (by decide) fingerprints))))).exactly_iff rfl rfl rfl
  | niRespond notifId userResponse =>
    exact (sends_of_puts (puts_next (puts_code _) (puts_next (puts_int notifId)
      (puts_last (puts_int userResponse))))).exactly_iff rfl rfl rfl
  | setRefLocation reflocation szStruct =>
    exact (sends_of_puts (puts_next (puts_code _) (puts_next (puts_refLocation reflocation)
      (puts_last (puts_int szStruct))))).exactly_iff rfl rfl rfl
  | setSetId type setid =>
    exact (sends_of_puts (puts_next (puts_code _) (puts_next (puts_int type)
      (puts_last (puts_string setid))))).exactly_iff rfl rfl rfl
  | niMessage msg =>
    exact (sends_of_puts (puts_next (puts_code _) (puts_last (puts_binary msg)))).exactly_iff
      rfl rfl rfl
  | updateNetworkState connected type roaming extraInfo =>
    exact updateNetworkState_exactly_iff s connected type roaming extraInfo
  | updateNetworkAvailability avaiable apn =>
    exact (sends_of_puts (puts_next (puts_code _) (puts_next (puts_int avaiable)
      (puts_last (puts_string (apn.getD .empty)))))).exactly_iff rfl rfl rfl

/-- An access point name of 1016 characters. -/
def longApn : CString := ⟨List.replicate 1016 65, by decide +kernel, by decide +kernel⟩

/-- Its terminator is written one byte behind the message. -/
theorem longApn_overruns_message :
    client ⟨0, 0⟩ (.dataConnOpen longApn) = .error (.store 8 1017 1024)
      ∧ ¬ Exactly ⟨0, 0⟩ (.dataConnOpen longApn) := by
  refine (and_iff_left_of_imp fun hrun h => ?_).mpr (by decide +kernel)
  rw [Exactly, hrun] at h
  exact nomatch h

end Hal.ToMnld
