import DeviceHal.Core.Loops
import DeviceHal.Wifi.FullResults

/-!
# Networks found by the driver (ePNO)

An ePNO event is an array of records, of networks found and of networks lost.  `ePNOCommand::handleEvent` goes through
it with one index for both the records and its own array `mResults`, which it has cleared before, and fills the places
of the records that are flagged as found; then it passes on as many places as there are records.

A place is `none` as long as it is cleared, so that a gap is not taken for a network.

**The defects.**  The places of the other records are passed on as well, without a network in them.  And the length of
an SSID is a byte of the record, from 0 to 255, while the arrays have 32 and 33 bytes.

* **`epno_right_iff`** — for which events the networks found are passed on.
-/

namespace Hal

open List hiding Vector
open Option

/-- `sizeof(wifi_pno_result_t)`. -/
def pnoResultSize : ℕ := 44

def pnoSsidFound : ℕ := 1

/-- `wifi_pno_result_t`. -/
structure PnoResult where
  ssid : List UInt8
  ssidLen : ℕ
  rssi : ℤ
  channel : ℕ
  flags : ℕ
  bssid : List UInt8

/-- A place of `mResults` that was filled, with what is not zero. -/
structure EpnoNetwork where
  ssid : List UInt8
  bssid : List UInt8
  channel : ℕ
  rssi : ℤ
deriving DecidableEq

def pnoAt (data : List UInt8) (i : ℕ) : PnoResult where
  ssid := slice data (pnoResultSize * i) dot11MaxSsidLen
  ssidLen := natAt data (pnoResultSize * i + 32) 1
  rssi := intAt data (pnoResultSize * i + 33) 1
  channel := natAt data (pnoResultSize * i + 34) 2
  flags := natAt data (pnoResultSize * i + 36) 2
  bssid := slice data (pnoResultSize * i + 38) 6

/-- The body of the `if` for `res[i]`.  The copies are from the array `res[i].ssid` to the array `mResults[i].ssid`. -/
def fillNetwork (data : List UInt8) (i : ℕ) : Except Fault EpnoNetwork := do
  let ssidLen ← loadNat data (pnoResultSize * i + 32) 1
  let source ← load data (pnoResultSize * i) dot11MaxSsidLen
  let copied ← load source 0 ssidLen
  let ssid ← store (padded (dot11MaxSsidLen + 1) []) 0 copied
  let bssid ← load data (pnoResultSize * i + 38) 6
  let ssid ← store ssid ssidLen [0]
  let channel ← loadNat data (pnoResultSize * i + 34) 2
  let rssi ← loadInt data (pnoResultSize * i + 33) 1
  .ok ⟨ssid, bssid, channel, rssi⟩

def epnoRound {max : ℕ} (data : List UInt8) (i : ℕ) (mResults : Vector (Option EpnoNetwork) max) :
    Except Fault (Vector (Option EpnoNetwork) max) := do
  let flags ← loadNat data (pnoResultSize * i + 36) 2
  if flags = pnoSsidFound then do
    let network ← fillNetwork data i
    writeAt mResults i (some network)
  else .ok mResults

/-- `num`.  `max` is `MAX_EPNO_NETWORKS`. -/
def epnoNum (max : ℕ) (data : List UInt8) : ℕ := min max (data.length / pnoResultSize)

/-- `ePNOCommand::handleEvent`: the places that `on_network_found` is called with, if it is called.  `handler` says
whether there is such a function. -/
def epnoHandleEvent (max : ℕ) (handler : Bool) (vendorData : Option (List UInt8)) :
    Except Fault (Option (List (Option EpnoNetwork))) :=
  match vendorData with
  | none => .ok none
  | some data =>
    if data.length = 0 then .ok none
    else do
      let mResults ← loop (epnoRound data) (epnoNum max data) (Vector.replicate max none)
      .ok (if handler then some (mResults.toList.take (epnoNum max data)) else none)

/-! ## What is asked of it -/

def pnoRecords (data : List UInt8) : List PnoResult := (List.range (data.length / pnoResultSize)).map (pnoAt data)

def PnoResult.Found (r : PnoResult) : Prop := r.flags = pnoSsidFound

instance : DecidablePred PnoResult.Found := fun _ => inferInstanceAs (Decidable (_ = _))

/-- The network of a record: its SSID is the first bytes of the array, and ends with a NUL. -/
def PnoResult.network (r : PnoResult) : EpnoNetwork where
  ssid := padded (dot11MaxSsidLen + 1) (r.ssid.take r.ssidLen)
  bssid := r.bssid
  channel := r.channel
  rssi := r.rssi

/-- Every copy stays inside the arrays, and a handler receives the networks that are found, in order, and nothing
else. -/
def EpnoRight (max : ℕ) (handler : Bool) (vendorData : Option (List UInt8)) : Prop :=
  ∃ out, epnoHandleEvent max handler vendorData = .ok out
    ∧ (handler = true →
        out.getD [] = ((pnoRecords (vendorData.getD [])).filter PnoResult.Found).map fun r => some r.network)

/-! ## One record -/

lemma padded_concat_zero {size : ℕ} {bs : List UInt8} (h : bs.length < size) :
    padded size (bs ++ [0]) = padded size bs := by
  have hsize : size - bs.length = size - (bs.length + 1) + 1 := by omega
  simp [padded, hsize, replicate_succ]

lemma patch_patch_zero {size n : ℕ} {bs : List UInt8} (hn : bs.length = n) (h : n < size) :
    patch (patch (padded size []) 0 bs) n [0] = padded size bs := by
  subst hn
  have hcopied : patch (padded size []) 0 bs = padded size bs := patch_padded (by rw [length_nil]; omega)
  rw [hcopied, patch_padded (by rw [length_singleton]; omega), padded_concat_zero h]

section Record

variable {data : List UInt8} {i : ℕ}

lemma length_pnoAt_ssid (h : pnoResultSize * (i + 1) ≤ data.length) : (pnoAt data i).ssid.length = dot11MaxSsidLen :=
  length_slice (by unfold pnoResultSize dot11MaxSsidLen at *; omega)

lemma length_take_ssid (h : pnoResultSize * (i + 1) ≤ data.length) (hle : (pnoAt data i).ssidLen ≤ dot11MaxSsidLen) :
    ((pnoAt data i).ssid.take (pnoAt data i).ssidLen).length = (pnoAt data i).ssidLen := by
  rw [length_take, length_pnoAt_ssid h, Nat.min_eq_left hle]

/-- **The copies of a record** stay inside the arrays iff its length is at most 32. -/
lemma reads_fillNetwork (h : pnoResultSize * (i + 1) ≤ data.length) :
    Reads (fillNetwork data i) ((pnoAt data i).ssidLen ≤ dot11MaxSsidLen) (pnoAt data i).network := by
  have hend : pnoResultSize * i + 44 ≤ data.length := h
  have hssid := length_pnoAt_ssid h
  have hcleared : (padded (dot11MaxSsidLen + 1) []).length = dot11MaxSsidLen + 1 := rfl
  refine ((reads_loadNat data (pnoResultSize * i + 32) 1).bind (a := (pnoAt data i).ssidLen) <|
    (reads_load data (pnoResultSize * i) dot11MaxSsidLen).bind (a := (pnoAt data i).ssid) <|
    (reads_load _ 0 _).bind (a := (pnoAt data i).ssid.take (pnoAt data i).ssidLen) <|
    (reads_store _ 0 _).bind <| (reads_load data (pnoResultSize * i + 38) 6).bind <|
    (reads_store _ _ [0]).bind <| (reads_loadNat data (pnoResultSize * i + 34) 2).bind <|
    (reads_loadInt data (pnoResultSize * i + 33) 1).map _).congr ?_ |>.of_eq ?_
  · constructor
    · rintro ⟨-, -, hcopy, -⟩
      rwa [hssid, Nat.zero_add] at hcopy
    · intro hle
      have hcopied := length_take_ssid h hle
      have hfirst : 0 + ((pnoAt data i).ssid.take (pnoAt data i).ssidLen).length
          ≤ (padded (dot11MaxSsidLen + 1) []).length := by
        omega
      refine ⟨by omega, by unfold dot11MaxSsidLen; omega, by omega, hfirst, by omega, ?_, by omega, by omega⟩
      rw [length_patch hfirst, hcleared, length_singleton]
      omega
  · intro hle
    rw [patch_patch_zero (length_take_ssid h hle) (Nat.lt_succ_of_le hle), PnoResult.network]
    simp only [pnoAt]

end Record

/-! ## The loop -/

def placeOf (r : PnoResult) : Option EpnoNetwork := if r.Found then some r.network else none

variable {data : List UInt8} {max i : ℕ}

lemma record_fits (hi : i < epnoNum max data) : pnoResultSize * (i + 1) ≤ data.length := by
  have hlt : i + 1 ≤ data.length / pnoResultSize := by
    unfold epnoNum at hi
    omega
  exact Nat.le_trans (Nat.mul_le_mul_left _ hlt) (Nat.mul_div_le _ _)

lemma epnoRound_eq (hi : i < epnoNum max data) (mResults : Vector (Option EpnoNetwork) max) :
    epnoRound data i mResults
      = if (pnoAt data i).Found then fillNetwork data i >>= fun network => writeAt mResults i (some network)
        else .ok mResults := by
  have hfits := record_fits hi
  have hflags : loadNat data (pnoResultSize * i + 36) 2 = .ok (pnoAt data i).flags :=
    (reads_loadNat data _ 2).eq_ok (by unfold pnoResultSize at hfits ⊢; omega)
  rw [epnoRound, hflags]
  rfl

def places (max : ℕ) (data : List UInt8) : List (Option EpnoNetwork) :=
  ((pnoRecords data).take max).map placeOf

lemma length_places (max : ℕ) (data : List UInt8) : (places max data).length = epnoNum max data := by
  simp [places, pnoRecords, epnoNum]

lemma getElem?_places (hi : i < epnoNum max data) : (places max data)[i]? = some (placeOf (pnoAt data i)) := by
  have hrange : i < max ∧ i < data.length / pnoResultSize := by
    unfold epnoNum at hi
    omega
  simp [places, pnoRecords, hrange.1, hrange.2]

/-- One round fills the place of a network found, and leaves any other cleared. -/
lemma epnoRound_filled (hi : i < epnoNum max data)
    (h : (pnoAt data i).Found → (pnoAt data i).ssidLen ≤ dot11MaxSsidLen) {t : Vector (Option EpnoNetwork) max}
    (ht : FilledTo (places max data) (Vector.replicate max none) i t) :
    ∃ t', epnoRound data i t = .ok t' ∧ FilledTo (places max data) (Vector.replicate max none) (i + 1) t' := by
  have hplace := getElem?_places hi
  have hmax : i < max := Nat.lt_of_lt_of_le hi (Nat.min_le_left _ _)
  rw [epnoRound_eq hi]
  by_cases hfound : (pnoAt data i).Found
  · rw [if_pos hfound, (reads_fillNetwork (record_fits hi)).eq_ok (h hfound)]
    rw [placeOf, if_pos hfound] at hplace
    exact ht.writeAt hmax hplace
  · rw [if_neg hfound]
    rw [placeOf, if_neg hfound] at hplace
    exact ⟨t, rfl, ht.skip hplace (by simp [hmax])⟩

/-- If the lengths of the networks found are right the loop fills the places. -/
lemma loop_epnoRound (h : ∀ i < epnoNum max data, (pnoAt data i).Found → (pnoAt data i).ssidLen ≤ dot11MaxSsidLen) :
    ∃ mResults, loop (epnoRound data) (epnoNum max data) (Vector.replicate max none) = .ok mResults
      ∧ mResults.toList.take (epnoNum max data) = places max data := by
  obtain ⟨mResults, hloop, hfilled⟩ := loop_ok (FilledTo (places max data) (Vector.replicate max none)) filledTo_zero
    fun i hi _ ht => epnoRound_filled hi (h i hi) ht
  refine ⟨mResults, hloop, ?_⟩
  rw [hfilled, take_append_of_le_length (by rw [length_take, length_places]; omega), take_take,
    Nat.min_self, ← length_places, take_length]

lemma ssidLen_le_of_loop {mResults : Vector (Option EpnoNetwork) max}
    (hloop : loop (epnoRound data) (epnoNum max data) (Vector.replicate max none) = .ok mResults)
    (hi : i < epnoNum max data) (hfound : (pnoAt data i).Found) : (pnoAt data i).ssidLen ≤ dot11MaxSsidLen := by
  obtain ⟨u, v, hround⟩ := exists_round_of_loop_ok hloop hi
  rw [epnoRound_eq hi, if_pos hfound] at hround
  obtain ⟨network, hnetwork, -⟩ := bind_eq_ok.mp hround
  exact (reads_fillNetwork (record_fits hi)).fits_of ⟨network, hnetwork⟩

lemma mem_take_pnoRecords {r : PnoResult} :
    r ∈ (pnoRecords data).take max ↔ ∃ i < epnoNum max data, pnoAt data i = r := by
  rw [pnoRecords, ← map_take, take_range, ← epnoNum]
  simp

/-! ## In place and filtered -/

/-- **Marking in place gives what filtering gives** iff the first `n` are all kept and no other is. -/
lemma map_ite_take_eq_iff {α β : Type} {p : α → Prop} [DecidablePred p] {f : α → β} {l : List α} {n : ℕ} :
    ((l.take n).map fun r => if p r then some (f r) else none) = (l.filter p).map (fun r => some (f r))
      ↔ (∀ r ∈ l.take n, p r) ∧ ∀ r ∈ l.drop n, ¬ p r := by
  have hsplit : l.filter p = (l.take n).filter p ++ (l.drop n).filter p := by
    rw [← filter_append, take_append_drop]
  constructor
  · intro h
    have hall : ∀ r ∈ l.take n, p r := by
      intro r hr
      have hmem : (if p r then some (f r) else none) ∈ (l.filter p).map fun r => some (f r) :=
        h ▸ mem_map_of_mem (f := fun r => if p r then some (f r) else none) hr
      obtain ⟨r', -, hr'⟩ := mem_map.mp hmem
      by_contra hnot
      rw [if_neg hnot] at hr'
      exact some_ne_none _ hr'
    refine ⟨hall, ?_⟩
    have hlength := congrArg List.length h
    rw [length_map, length_map, hsplit, length_append,
      filter_eq_self.mpr fun r hr => decide_eq_true (hall r hr)] at hlength
    have hnil : (l.drop n).filter p = [] := length_eq_zero_iff.mp (by omega)
    intro r hr hp
    exact filter_eq_nil_iff.mp hnil r hr (decide_eq_true hp)
  · rintro ⟨hall, hnone⟩
    have hnil : (l.drop n).filter p = [] := filter_eq_nil_iff.mpr fun r hr => by simpa using hnone r hr
    rw [hsplit, hnil, append_nil, filter_eq_self.mpr fun r hr => decide_eq_true (hall r hr)]
    exact map_congr_left fun r hr => if_pos (hall r hr)

lemma epnoHandleEvent_some {handler : Bool} (h : data.length ≠ 0) :
    epnoHandleEvent max handler (some data)
      = loop (epnoRound data) (epnoNum max data) (Vector.replicate max none) >>= fun mResults =>
          .ok (if handler then some (mResults.toList.take (epnoNum max data)) else none) := if_neg h

lemma epnoRight_of_skipped {handler : Bool} {vendorData : Option (List UInt8)}
    (hempty : vendorData.getD [] = []) (hskipped : epnoHandleEvent max handler vendorData = .ok none) :
    EpnoRight max handler vendorData :=
  ⟨none, hskipped, fun _ => by rw [hempty]; rfl⟩

/-- **ePNO events.**  All copies stay inside the SSID arrays, and the handler receives the networks found, in order and
without gaps, iff of the first `MAX_EPNO_NETWORKS` records none that is of a network found has a length above 32 and,
where there is a handler, each is of a network found and no later record is. -/
theorem epno_right_iff (max : ℕ) (handler : Bool) (vendorData : Option (List UInt8)) :
    EpnoRight max handler vendorData ↔
      (∀ r ∈ (pnoRecords (vendorData.getD [])).take max, r.Found → r.ssidLen ≤ dot11MaxSsidLen)
        ∧ (handler = true → (∀ r ∈ (pnoRecords (vendorData.getD [])).take max, r.Found)
            ∧ ∀ r ∈ (pnoRecords (vendorData.getD [])).drop max, ¬ r.Found) := by
  cases vendorData with
  | none => exact iff_of_true (epnoRight_of_skipped rfl rfl) (by simp [pnoRecords])
  | some data =>
    by_cases hlen : data.length = 0
    · have hskipped : epnoHandleEvent max handler (some data) = .ok none := if_pos hlen
      obtain rfl := length_eq_zero_iff.mp hlen
      exact iff_of_true (epnoRight_of_skipped rfl hskipped) (by simp [pnoRecords])
    rw [getD_some, EpnoRight, epnoHandleEvent_some hlen]
    constructor
    · rintro ⟨out, hout, hnetworks⟩
      obtain ⟨mResults, hloop, hok⟩ := bind_eq_ok.mp hout
      have hssid := fun i (hi : i < epnoNum max data) => ssidLen_le_of_loop hloop hi
      constructor
      · intro r hr
        obtain ⟨i, hi, rfl⟩ := mem_take_pnoRecords.mp hr
        exact hssid i hi
      · intro hhandler
        obtain ⟨mResults', hloop', htake⟩ := loop_epnoRound hssid
        obtain rfl : mResults = mResults' := Except.ok.inj (hloop.symm.trans hloop')
        obtain rfl := Except.ok.inj hok
        have hplaces := hnetworks hhandler
        rw [if_pos hhandler, getD_some, htake] at hplaces
        exact map_ite_take_eq_iff.mp hplaces
    · rintro ⟨hssid, hhandled⟩
      obtain ⟨mResults, hloop, htake⟩ := loop_epnoRound fun i hi =>
        hssid _ (mem_take_pnoRecords.mpr ⟨i, hi, rfl⟩)
      refine ⟨_, bind_eq_ok.mpr ⟨mResults, hloop, rfl⟩, fun hhandler => ?_⟩
      rw [if_pos hhandler, getD_some, htake]
      exact map_ite_take_eq_iff.mpr (hhandled hhandler)

/-- A record with a flag and the length of its SSID. -/
def pnoBytes (ssidLen flags : UInt8) : List UInt8 :=
  List.replicate 32 65 ++ [ssidLen, 200, 36, 0, flags, 0] ++ List.replicate 6 1

/-- **The defects**: a network lost in front of one found is passed on as an empty place; and an SSID of 33 bytes is
copied from an array of 32. -/
theorem epno_gap_and_overlong_ssid :
    ((∃ network, epnoHandleEvent 64 true (some (pnoBytes 2 2 ++ pnoBytes 3 1)) = .ok (some [none, some network]))
        ∧ ¬ EpnoRight 64 true (some (pnoBytes 2 2 ++ pnoBytes 3 1)))
      ∧ epnoHandleEvent 64 true (some (pnoBytes 33 1)) = .error (.load 0 33 32)
      ∧ ¬ EpnoRight 64 true (some (pnoBytes 33 1)) := by
  have hgiven : epnoHandleEvent 64 true (some (pnoBytes 2 2 ++ pnoBytes 3 1))
      = .ok (some [none, some ⟨[65, 65, 65] ++ List.replicate 30 0, List.replicate 6 1, 36, -56⟩]) := by decide +kernel
  have hgap : ¬ EpnoRight 64 true (some (pnoBytes 2 2 ++ pnoBytes 3 1)) := by
    intro hright
    obtain ⟨out, hout, hnetworks⟩ := hright
    obtain rfl := Except.ok.inj (hgiven.symm.trans hout)
    exact absurd (hnetworks rfl) (by decide +kernel)
  have hfault : epnoHandleEvent 64 true (some (pnoBytes 33 1)) = .error (.load 0 33 32) := by decide +kernel
  refine ⟨⟨⟨_, hgiven⟩, hgap⟩, hfault, ?_⟩
  rintro ⟨out, hout, -⟩
  cases hout

end Hal
