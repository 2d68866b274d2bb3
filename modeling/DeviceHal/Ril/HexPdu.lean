import DeviceHal.Core.Keyed
import DeviceHal.Core.Loops
import Mathlib.Data.List.GetD

/-!
# PDUs written as hexadecimal strings

A short message, and a status report, comes from the vendor as a string of hexadecimal digits.
`convertHexStringToBytes` turns it into bytes, two digits a round, and `newSmsInd` and
`newSmsStatusReportInd` hand the first half of the buffer to the client: the buffer is as long as the
string, and every byte is written twice, the second time into the other half.

* `pairByte` — what a byte of the PDU should be; `Decoding` — the buffer holds them, up to a round.
* **`hexPdu_exact`** — what the client is handed.
-/

namespace Hal

open List hiding Vector

/-- A string of the vendor, without its terminator.  An object has less than 2³¹ bytes here. -/
structure PduString where
  chars : List UInt8
  zero_notMem : 0 ∉ chars
  length_lt : chars.length + 1 < 2147483648

def PduString.memory (s : PduString) : List UInt8 := s.chars ++ [0]

def PduString.strlen (s : PduString) : ℕ := (s.memory.takeWhile (· ≠ 0)).length

def invalidHexChar : UInt8 := 16

def hexCharToInt (c : UInt8) : UInt8 :=
  if 48 ≤ c ∧ c ≤ 57 then c - 48
  else if 65 ≤ c ∧ c ≤ 70 then c - 65 + 10
  else if 97 ≤ c ∧ c ≤ 102 then c - 97 + 10
  else invalidHexChar

/-- A round of the loop, with `i = 2 * k`.  `none` is the `NULL` that ends it. -/
def hexRound (response : List UInt8) (responseLen k : ℕ) (bytes : Option (Vector UInt8 responseLen)) :
    Except Fault (Option (Vector UInt8 responseLen)) :=
  match bytes with
  | none => .ok none
  | some bytes => do
    let i := 2 * k
    let hexChar1 := hexCharToInt (← readAt response i)
    let hexChar2 := hexCharToInt (← readAt response (i + 1))
    if hexChar1 = invalidHexChar ∨ hexChar2 = invalidHexChar then
      .ok none
    else
      let bytes ← writeAt bytes (i / 2) (hexChar1 <<< 4 ||| hexChar2)
      let bytes ← writeAt bytes ((responseLen + i) % 2 ^ 32 / 2) (hexChar1 <<< 4 ||| hexChar2)
      .ok (some bytes)

/-- The buffer is as long as the string.  Memory is taken to be there. -/
def convertHexStringToBytes (response : List UInt8) (responseLen : ℕ) : Except Fault (Option (List UInt8)) :=
  if responseLen % 2 ≠ 0 then .ok none
  else
    (loop (hexRound response responseLen) ((responseLen + 1) / 2)
      (some (Vector.replicate responseLen 0))).map (Option.map Vector.toList)

/-- What both indications do with `response`, where `MTK_HARDWARE` is defined: the PDU for the client. -/
def smsPdu (response : Option PduString) (responseLen : ℕ) : Except Fault (Option (List UInt8)) :=
  match response with
  | none => .ok none
  | some st =>
    if responseLen = 0 then .ok none
    else do
      let pduLen := intOfSize st.strlen
      let bytes ← convertHexStringToBytes st.memory (pduLen % 2 ^ 32).toNat
      match bytes with
      | none => .ok none
      | some bytes =>
        let size := (pduLen / 2).toNat
        if size ≤ bytes.length then .ok (some (bytes.take size))
        else .error (.load 0 size bytes.length)

inductive SmsIndication where
  | newSms (pdu : List UInt8)
  | newSmsStatusReport (pdu : List UInt8)

def newSmsInd (response : Option PduString) (responseLen : ℕ) : Except Fault (Option SmsIndication) :=
  (smsPdu response responseLen).map (Option.map .newSms)

def newSmsStatusReportInd (response : Option PduString) (responseLen : ℕ) : Except Fault (Option SmsIndication) :=
  (smsPdu response responseLen).map (Option.map .newSmsStatusReport)

/-! ## What the PDU should be -/

def IsHex (c : UInt8) : Prop := (48 ≤ c ∧ c ≤ 57) ∨ (65 ≤ c ∧ c ≤ 70) ∨ (97 ≤ c ∧ c ≤ 102)

instance (c : UInt8) : Decidable (IsHex c) := inferInstanceAs (Decidable (_ ∨ _))

def hexValue (c : UInt8) : ℕ :=
  if c ≤ 57 then c.toNat - 48 else if c ≤ 70 then c.toNat - 55 else c.toNat - 87

/-- The byte that digits `2 * i` and `2 * i + 1` write. -/
def pairByte (chars : List UInt8) (i : ℕ) : UInt8 :=
  UInt8.ofNat (16 * hexValue (chars.getD (2 * i) 0) + hexValue (chars.getD (2 * i + 1) 0))

/-- The string is a number of whole bytes. -/
def WellFormed (chars : List UInt8) : Prop := chars.length % 2 = 0 ∧ ∀ c ∈ chars, IsHex c

instance (chars : List UInt8) : Decidable (WellFormed chars) := inferInstanceAs (Decidable (_ ∧ _))

/-- The PDU a well-formed string writes. -/
def pduOf (chars : List UInt8) : List UInt8 := (List.range (chars.length / 2)).map (pairByte chars)

/-! ## Digits -/

theorem hexCharToInt_eq_invalid_iff (c : UInt8) : hexCharToInt c = invalidHexChar ↔ ¬ IsHex c := by
  simp only [hexCharToInt, IsHex, invalidHexChar, ← UInt8.toNat_inj, UInt8.le_iff_toNat_le]
  split_ifs <;> simp [UInt8.toNat_sub, UInt8.toNat_add] at * <;> omega

theorem hexCharToInt_toNat {c : UInt8} (h : IsHex c) : (hexCharToInt c).toNat = hexValue c := by
  simp only [hexCharToInt, hexValue, IsHex, UInt8.le_iff_toNat_le, UInt8.reduceToNat] at *
  split_ifs <;> simp [UInt8.toNat_sub, UInt8.toNat_add, invalidHexChar] at * <;> omega

theorem hexValue_lt {c : UInt8} (h : IsHex c) : hexValue c < 16 := by
  simp only [hexValue, IsHex, UInt8.le_iff_toNat_le, UInt8.reduceToNat] at *
  split_ifs <;> omega

/-- Four bits and four bits. -/
theorem shiftLeft_or_eq {x y : UInt8} (hx : x.toNat < 16) (hy : y.toNat < 16) :
    x <<< 4 ||| y = UInt8.ofNat (16 * x.toNat + y.toNat) := by
  have hshift : x.toNat <<< 4 % 256 = 2 ^ 4 * x.toNat := by
    omega
  have hor : 2 ^ 4 * x.toNat ||| y.toNat = 2 ^ 4 * x.toNat + y.toNat :=
    (Nat.two_pow_add_eq_or_of_lt hy x.toNat).symm
  rw [← UInt8.toNat_inj, UInt8.toNat_or, UInt8.toNat_shiftLeft, UInt8.toNat_ofNat']
  show x.toNat <<< 4 % 256 ||| y.toNat = _
  rw [hshift, hor]
  omega

/-- A pair of digits makes the byte it should. -/
theorem pairByte_eq {chars : List UInt8} {k : ℕ} (h₁ : IsHex (chars.getD (2 * k) 0))
    (h₂ : IsHex (chars.getD (2 * k + 1) 0)) :
    hexCharToInt (chars.getD (2 * k) 0) <<< 4 ||| hexCharToInt (chars.getD (2 * k + 1) 0) =
      pairByte chars k := by
  have hv₁ := hexCharToInt_toNat h₁
  have hv₂ := hexCharToInt_toNat h₂
  rw [shiftLeft_or_eq (by rw [hv₁]; exact hexValue_lt h₁) (by rw [hv₂]; exact hexValue_lt h₂), hv₁, hv₂, pairByte]

/-! ## The loop -/

section Loop

variable {s : PduString} {k : ℕ}

theorem readAt_memory {i : ℕ} (h : i < s.chars.length) : readAt s.memory i = .ok (s.chars.getD i 0) := by
  refine readAt_of_getElem? ?_
  rw [PduString.memory, List.getElem?_append_left h, List.getElem?_eq_getElem h, getD_eq_getElem _ _ h]

/-- **The buffer after some rounds**, or the reason why there is none. -/
def Decoding (chars : List UInt8) {size : ℕ} (k : ℕ) (bytes : Option (Vector UInt8 size)) : Prop :=
  match bytes with
  | some bytes =>
    (∀ j < 2 * k, IsHex (chars.getD j 0)) ∧ ∀ j < k, bytes.toList[j]? = some (pairByte chars j)
  | none => ∃ c ∈ chars, ¬ IsHex c

/-- The second write of a round lies behind everything the client will see. -/
theorem write_twice {size m : ℕ} {a : Vector UInt8 size} {f : ℕ → UInt8} (hk : k < m) (hm : m < size)
    (ha : ∀ j < k, a.toList[j]? = some (f j)) :
    ∃ b c, writeAt a k (f k) = .ok b ∧ writeAt b m (f k) = .ok c ∧
      ∀ j < k + 1, c.toList[j]? = some (f j) := by
  refine ⟨_, _, writeAt_of_lt _ (by omega), writeAt_of_lt _ hm, ?_⟩
  intro j hj
  rw [Vector.toList_set, Vector.toList_set, List.getElem?_set_ne (by omega)]
  rcases Nat.lt_succ_iff_lt_or_eq.mp hj with hlt | rfl
  · rw [List.getElem?_set_ne (by omega)]
    exact ha j hlt
  · exact List.getElem?_set_self (by simp; omega)

/-- A round on a pair that is not of digits. -/
theorem hexRound_of_not_hex (hk : 2 * k + 1 < s.chars.length) (bytes : Vector UInt8 s.chars.length)
    (h : ¬ IsHex (s.chars.getD (2 * k) 0) ∨ ¬ IsHex (s.chars.getD (2 * k + 1) 0)) :
    hexRound s.memory s.chars.length k (some bytes) = .ok none := by
  rw [← hexCharToInt_eq_invalid_iff, ← hexCharToInt_eq_invalid_iff] at h
  simp only [hexRound, readAt_memory (show 2 * k < s.chars.length by omega), readAt_memory hk]
  exact if_pos h

/-- A round on a pair of digits.  The index of the second write does not wrap: the string is shorter than
half the address space. -/
theorem hexRound_of_hex (hk : 2 * k + 1 < s.chars.length) {a b c : Vector UInt8 s.chars.length}
    (h₁ : IsHex (s.chars.getD (2 * k) 0)) (h₂ : IsHex (s.chars.getD (2 * k + 1) 0))
    (hb : writeAt a k (pairByte s.chars k) = .ok b)
    (hc : writeAt b ((s.chars.length + 2 * k) / 2) (pairByte s.chars k) = .ok c) :
    hexRound s.memory s.chars.length k (some a) = .ok (some c) := by
  have hlen := s.length_lt
  have hindex : (s.chars.length + 2 * k) % 2 ^ 32 / 2 = (s.chars.length + 2 * k) / 2 := by
    rw [Nat.mod_eq_of_lt (by omega)]
  have hvalid : ¬ (hexCharToInt (s.chars.getD (2 * k) 0) = invalidHexChar ∨
      hexCharToInt (s.chars.getD (2 * k + 1) 0) = invalidHexChar) := by
    rw [hexCharToInt_eq_invalid_iff, hexCharToInt_eq_invalid_iff]
    rintro (h | h)
    · exact h h₁
    · exact h h₂
  simp only [hexRound, readAt_memory (show 2 * k < s.chars.length by omega), readAt_memory hk]
  refine (if_neg hvalid).trans ?_
  rw [pairByte_eq h₁ h₂, hindex, Nat.mul_div_cancel_left k (by decide), hb]
  show (writeAt b _ _ >>= fun bytes => Except.ok (some bytes)) = _
  rw [hc]
  rfl

theorem getD_mem {chars : List UInt8} {i : ℕ} (h : i < chars.length) : chars.getD i 0 ∈ chars := by
  rw [getD_eq_getElem _ _ h]
  exact getElem_mem h

/-- **A round keeps it.** -/
theorem hexRound_decoding (hk : 2 * k + 1 < s.chars.length)
    {bytes : Option (Vector UInt8 s.chars.length)} (h : Decoding s.chars k bytes) :
    ∃ bytes', hexRound s.memory s.chars.length k bytes = .ok bytes' ∧
      Decoding s.chars (k + 1) bytes' := by
  cases bytes with
  | none => exact ⟨none, rfl, h⟩
  | some bytes =>
    obtain ⟨hdigits, hbytes⟩ := h
    by_cases h₁ : IsHex (s.chars.getD (2 * k) 0)
    · by_cases h₂ : IsHex (s.chars.getD (2 * k + 1) 0)
      · obtain ⟨b, c, hb, hc, hwritten⟩ := write_twice
          (show k < (s.chars.length + 2 * k) / 2 by omega) (by omega) hbytes
        refine ⟨some c, hexRound_of_hex hk h₁ h₂ hb hc, ?_, hwritten⟩
        intro j hj
        obtain hlt | rfl | rfl : j < 2 * k ∨ j = 2 * k ∨ j = 2 * k + 1 := by omega
        · exact hdigits j hlt
        · exact h₁
        · exact h₂
      · exact ⟨none, hexRound_of_not_hex hk bytes (.inr h₂), _, getD_mem hk, h₂⟩
    · exact ⟨none, hexRound_of_not_hex hk bytes (.inl h₁), _, getD_mem (by omega), h₁⟩

end Loop

/-! ## The buffer and the PDU -/

/-- The first half of the buffer, when all rounds are done. -/
theorem take_of_pairs {chars bytes : List UInt8}
    (hpairs : ∀ j < chars.length / 2, bytes[j]? = some (pairByte chars j)) :
    bytes.take (chars.length / 2) = pduOf chars := by
  refine ext_getElem? fun j => ?_
  by_cases hj : j < chars.length / 2
  · rw [List.getElem?_take_of_lt hj, hpairs j hj, pduOf, List.getElem?_map, List.getElem?_range hj, Option.map_some]
  · rw [List.getElem?_eq_none (by simp; omega), List.getElem?_eq_none (by simp [pduOf]; omega)]

/-- **A string becomes a buffer iff it is even and all digits**, and the buffer begins with its bytes. -/
theorem convertHexStringToBytes_ok (s : PduString) :
    ∃ bytes, convertHexStringToBytes s.memory s.chars.length = .ok bytes ∧
      (bytes.isSome ↔ WellFormed s.chars) ∧
      ∀ b ∈ bytes, b.length = s.chars.length ∧ b.take (s.chars.length / 2) = pduOf s.chars := by
  by_cases heven : s.chars.length % 2 = 0
  · have hstart : Decoding s.chars 0 (some (Vector.replicate s.chars.length 0)) :=
      ⟨by simp, by simp⟩
    have hround : ∀ k < (s.chars.length + 1) / 2, ∀ t, Decoding s.chars k t →
        ∃ t', hexRound s.memory s.chars.length k t = .ok t' ∧ Decoding s.chars (k + 1) t' :=
      fun k hk _ h => hexRound_decoding (by omega) h
    obtain ⟨bytes, hbytes, hdone⟩ := loop_ok (Decoding s.chars) hstart hround
    refine ⟨bytes.map Vector.toList, ?_, ?_⟩
    · rw [convertHexStringToBytes, if_neg (by omega), hbytes]
      rfl
    · cases bytes with
      | none =>
        obtain ⟨c, hc, hbad⟩ := hdone
        exact ⟨⟨by simp, fun h => absurd (h.2 c hc) hbad⟩, by simp⟩
      | some b =>
        obtain ⟨hdigits, hpairs⟩ := hdone
        refine ⟨⟨fun _ => ⟨heven, ?_⟩, fun _ => rfl⟩, ?_⟩
        · intro c hc
          obtain ⟨i, hi, rfl⟩ := getElem_of_mem hc
          have hdigit := hdigits i (by omega)
          rwa [getD_eq_getElem _ _ hi] at hdigit
        · rintro _ ⟨⟩
          exact ⟨by simp, take_of_pairs fun j hj => hpairs j (by omega)⟩
  · refine ⟨none, ?_, ?_, by simp⟩
    · rw [convertHexStringToBytes, if_pos heven]
    · exact ⟨by simp, fun h => absurd h.1 heven⟩

theorem strlen_eq (s : PduString) : s.strlen = s.chars.length := by
  rw [PduString.strlen, PduString.memory, takeWhile_ne_append s.zero_notMem]

/-- The PDU of an indication, if there is one. -/
theorem smsPdu_eq (s : PduString) {responseLen : ℕ} (hresponse : responseLen ≠ 0) :
    smsPdu (some s) responseLen = .ok (if WellFormed s.chars then some (pduOf s.chars) else none) := by
  have hlen := s.length_lt
  have hpdu : intOfSize s.strlen = s.chars.length := by
    rw [strlen_eq]
    exact intOfSize_eq (by omega)
  have hsize : ((s.chars.length : ℤ) % 2 ^ 32).toNat = s.chars.length := by omega
  have hhalf : ((s.chars.length : ℤ) / 2).toNat = s.chars.length / 2 := by omega
  obtain ⟨bytes, hbytes, hsome, htake⟩ := convertHexStringToBytes_ok s
  simp only [smsPdu, hresponse, if_false, hpdu, hsize, hbytes, hhalf]
  cases bytes with
  | none =>
    have hbad : ¬ WellFormed s.chars := fun h => absurd (hsome.mpr h) (by simp)
    rw [if_neg hbad]
    rfl
  | some b =>
    obtain ⟨hb, hpduOf⟩ := htake b rfl
    rw [if_pos (hsome.mp rfl), ← hpduOf]
    exact if_pos (by omega)

/-- **What becomes of a string of the vendor.**  Nothing is read or written outside; there is a buffer iff
the string is a whole number of bytes in hexadecimal; and then the client is handed those bytes, unless the
vendor has given the length as zero, and nothing otherwise. -/
theorem hexPdu_exact (s : PduString) (responseLen : ℕ) :
    (∃ bytes, convertHexStringToBytes s.memory s.strlen = .ok bytes ∧
      (bytes.isSome ↔ s.chars.length % 2 = 0 ∧ ∀ c ∈ s.chars, IsHex c)) ∧
    (∃ pdu : Option (List UInt8), newSmsInd (some s) responseLen = .ok (pdu.map .newSms) ∧
      newSmsStatusReportInd (some s) responseLen = .ok (pdu.map .newSmsStatusReport) ∧
      (pdu.isSome ↔ responseLen ≠ 0 ∧ s.chars.length % 2 = 0 ∧ ∀ c ∈ s.chars, IsHex c) ∧
      ∀ bytes ∈ pdu, bytes.length = s.chars.length / 2 ∧
        ∀ i < s.chars.length / 2, bytes[i]? = some (UInt8.ofNat
          (16 * hexValue (s.chars.getD (2 * i) 0) + hexValue (s.chars.getD (2 * i + 1) 0)))) := by
  refine ⟨?_, ?_⟩
  · obtain ⟨bytes, hbytes, hsome, -⟩ := convertHexStringToBytes_ok s
    rw [strlen_eq]
    exact ⟨bytes, hbytes, hsome⟩
  · by_cases hzero : responseLen = 0
    · refine ⟨none, ?_, ?_, ?_, ?_⟩ <;> simp [newSmsInd, newSmsStatusReportInd, smsPdu, hzero, Except.map]
    · refine ⟨if WellFormed s.chars then some (pduOf s.chars) else none, ?_, ?_, ?_, ?_⟩
      · rw [newSmsInd, smsPdu_eq s hzero]
        rfl
      · rw [newSmsStatusReportInd, smsPdu_eq s hzero]
        rfl
      · rw [and_iff_right hzero]
        show _ ↔ WellFormed s.chars
        split_ifs with h <;> simp [h]
      · intro bytes hbytes
        split_ifs at hbytes with h
        · cases hbytes
          refine ⟨by simp [pduOf], fun i hi => ?_⟩
          rw [pduOf, List.getElem?_map, List.getElem?_range hi]
          rfl
        · cases hbytes

end Hal
