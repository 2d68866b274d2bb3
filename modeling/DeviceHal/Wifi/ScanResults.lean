import DeviceHal.Core.Machine
import DeviceHal.Core.Netlink

/-!
# Cached scan results

`GetScanResultsCommand` asks the driver for its cached scans, up to ten times, and `handleResponse` copies what
the replies hold into an array of the caller.  A reply is a nest of attributes: the inner loop collects the
fields of a scan in local variables and stores the scan when it gets to the attribute with the results.

The two loops of `handleResponse` are one list of visits (`DriverReply.visits`), read off the bytes of the reply;
`execute` is a machine that requests and visits drive.

**The defect.**  The number of results is a `uint32_t` in the reply and an `int` in the code, and is only bounded
from above.

* `results_inside` — the attribute with the results lies inside the nest it is found in.
* `CachedScan.Sound` — what a stored scan has to be.
* **`scanResults_ok_iff`** — all is well along an execution **iff** no scan is stored while its number of
  results is negative.
-/

namespace Hal

open List Option

/-- `GSCAN_ATTRIBUTE`: the attributes of a reply. -/
inductive GscanAttr where
  | scanResultsComplete
  | numOfResults
  | flushResults
  | scanResults
  | scanId
  | scanFlags
  | apFlags
  | chBucketBitmask

def GscanAttr.ofType : ℕ → Option GscanAttr
  | 21 => some .scanResultsComplete
  | 30 => some .numOfResults
  | 31 => some .flushResults
  | 32 => some .scanResults
  | 33 => some .scanId
  | 34 => some .scanFlags
  | 35 => some .apFlags
  | 36 => some .chBucketBitmask
  | _ => none

/-- `sizeof(wifi_scan_result)`, and `sizeof(wifi_gscan_result_t)`. -/
def scanResultSize : ℕ := 88

def maxApCachePerScan : ℤ := 32

/-- A visit of one of the two loops.  What they ignore is left out. -/
inductive ScanVisit where
  | complete (flag : ℕ)
  | nest
  | scanId (v : ℕ)
  | scanFlags (v : ℕ)
  | numOfResults (v : ℕ)
  | chBucketBitmask (v : ℕ)
  | results (data len : ℕ)
deriving DecidableEq

/-- The body of the inner loop, as far as it looks at the message.  The length of an attribute that `has_next`
accepts is not negative. -/
def innerVisit (mem : Memory) (attr : ℕ) : List ScanVisit :=
  match GscanAttr.ofType (nlaType mem attr) with
  | some .scanId => [.scanId (u32At mem (nlaData attr))]
  | some .scanFlags => [.scanFlags (mem (nlaData attr)).toNat]
  | some .numOfResults => [.numOfResults (u32At mem (nlaData attr))]
  | some .chBucketBitmask => [.chBucketBitmask (u32At mem (nlaData attr))]
  | some .scanResults => [.results (nlaData attr) (nlaLen mem attr).toNat]
  | _ => []

def outerVisit (mem : Memory) (attr : ℕ) : List ScanVisit :=
  match GscanAttr.ofType (nlaType mem attr) with
  | some .scanResultsComplete => [.complete (mem (nlaData attr)).toNat]
  | some _ => .nest :: (attrs mem attr).flatMap (innerVisit mem)
  | none => []

/-- A reply: whether its command is `NL80211_CMD_VENDOR`, the address and the length of the vendor data. -/
structure DriverReply where
  mem : Memory
  isVendor : Bool
  vendorData : Option ℕ
  vendorDataLen : ℤ

/-- `handleResponse`, as far as it looks at the message.  The loops start in the payload of what the vendor data
begins with. -/
def DriverReply.visits (reply : DriverReply) : List ScanVisit :=
  match reply.vendorData with
  | none => []
  | some attr =>
    if reply.isVendor = false ∨ reply.vendorDataLen = 0 then []
    else (attrs reply.mem attr).flatMap (outerVisit reply.mem)

/-- **The attribute with the results lies inside the nest that the vendor data begins with.** -/
theorem results_inside {reply : DriverReply} {attr data len : ℕ} (hattr : reply.vendorData = some attr)
    (h : .results data len ∈ reply.visits) :
    nlaData attr ≤ data ∧ data + len ≤ attr + nlaTotalLen reply.mem attr := by
  simp only [DriverReply.visits, hattr] at h
  split_ifs at h
  · exact absurd h not_mem_nil
  obtain ⟨outer, houter, h⟩ := mem_flatMap.mp h
  obtain ⟨hlo, -, hhi⟩ := mem_attrs houter
  simp only [outerVisit] at h
  split at h
  · simp at h
  · simp only [mem_cons, reduceCtorEq, false_or] at h
    obtain ⟨inner, hinner, h⟩ := mem_flatMap.mp h
    obtain ⟨hlo', hhdr, hhi'⟩ := mem_attrs hinner
    simp only [innerVisit] at h
    split at h <;> simp only [mem_singleton, not_mem_nil, reduceCtorEq, ScanVisit.results.injEq] at h
    simp only [nlaData, nlaLen, nlaHdrLen] at *
    omega
  · exact absurd h not_mem_nil

/-! ## The command -/

/-- `wifi_cached_scan_results`.  `entries` are the addresses that the records of `results` are copied from, in
order; `data` and `len` are ghosts, the attribute they are in. -/
structure CachedScan where
  scanId : ℤ
  flags : ℕ
  numResults : ℤ
  bucketsScanned : ℤ
  entries : List ℕ
  data : ℕ
  len : ℕ

/-- As many results as it says, at most as many as there is room for, each from inside the attribute. -/
structure CachedScan.Sound (scan : CachedScan) : Prop where
  nonneg : 0 ≤ scan.numResults
  le_max : scan.numResults ≤ maxApCachePerScan
  count : scan.numResults = scan.entries.length
  inside : ∀ a ∈ scan.entries, scan.data ≤ a ∧ a + scanResultSize ≤ scan.data + scan.len

/-- The local variables of `handleResponse`.  After a `break` the rest of the nest is skipped. -/
structure ScanLocals where
  scanId : ℤ
  flags : ℕ
  num : ℤ
  scanChBucketMask : ℤ
  skipping : Bool

def ScanLocals.zero : ScanLocals := ⟨0, 0, 0, 0, false⟩

/-- The command in the course of `execute`.  `awaiting` is set from the request to the response; `ret` is the
result of `execute`, once it has returned.  `requests` is a ghost, the number of requests sent. -/
structure ScanState where
  mRetrieved : ℤ
  mCompleted : ℕ
  scans : List CachedScan
  locals : ScanLocals
  i : ℕ
  prevRetrieved : ℤ
  awaiting : Bool
  requests : ℕ
  ret : Option ℤ
  mNum : Option ℤ

/-- What happens to the command: `createRequest` gives a result, `handleResponse` visits an attribute,
`requestResponse` gives a result. -/
inductive ScanAct where
  | request (result : ℤ)
  | visit (v : ScanVisit)
  | response (result : ℤ)

structure Exchange where
  created : ℤ
  replies : List DriverReply
  result : ℤ

/-- If the request cannot be made there is no reply. -/
def Exchange.acts (x : Exchange) : List ScanAct :=
  if x.created < 0 then [.request x.created]
  else .request x.created :: (x.replies.flatMap DriverReply.visits).map ScanAct.visit ++ [.response x.result]

def wifiSuccess : ℤ := 0

namespace ScanState

def finish (s : ScanState) : ScanState := { s with ret := some wifiSuccess, mNum := some s.mRetrieved }

def loop (max : ℤ) (s : ScanState) : ScanState := if s.i < 10 ∧ s.mRetrieved < max then s else s.finish

/-- The constructor, and `execute` up to the first request. -/
def start (max : ℤ) : ScanState :=
  loop max ⟨0, 0, [], .zero, 0, 0, false, 0, none, none⟩

def storeScan (max : ℤ) (s : ScanState) (data len : ℕ) : ScanState :=
  if s.locals.num = 0 then s
  else if s.mRetrieved ≥ max then { s with locals := { s.locals with skipping := true } }
  else
    let num := min (min s.locals.num (len / scanResultSize : ℕ)) maxApCachePerScan
    { s with
      locals := { s.locals with num := num }
      scans := s.scans ++
        [{ scanId := s.locals.scanId
           flags := s.locals.flags
           numResults := num
           bucketsScanned := s.locals.scanChBucketMask
           entries := (List.range num.toNat).map fun i => data + scanResultSize * i
           data := data
           len := len }]
      mRetrieved := s.mRetrieved + 1 }

/-- An attribute with a field of the scan. -/
def setLocals (s : ScanState) (locals : ScanLocals) : ScanState :=
  if s.locals.skipping then s else { s with locals := locals }

def visit (max : ℤ) (s : ScanState) : ScanVisit → ScanState
  | .complete flag => { s with mCompleted := flag }
  | .nest => { s with locals := .zero }
  | .scanId v => s.setLocals { s.locals with scanId := int32 v }
  | .scanFlags v => s.setLocals { s.locals with flags := v }
  | .numOfResults v => s.setLocals { s.locals with num := int32 v }
  | .chBucketBitmask v => s.setLocals { s.locals with scanChBucketMask := int32 v }
  | .results data len => if s.locals.skipping then s else s.storeScan max data len

/-- The loop of `execute` up to `requestResponse`. -/
def request (s : ScanState) (result : ℤ) : ScanState :=
  if result < 0 then { s with ret := some result }
  else { s with requests := s.requests + 1, prevRetrieved := s.mRetrieved, awaiting := true }

/-- The loop of `execute` from there on. -/
def response (max : ℤ) (s : ScanState) (result : ℤ) : ScanState :=
  if result ≠ wifiSuccess then { s with ret := some result }
  else if s.mRetrieved = s.prevRetrieved ∨ s.mCompleted ≠ 0 then s.finish
  else loop max { s with i := s.i + 1, awaiting := false }

def step (max : ℤ) (s : ScanState) (act : ScanAct) : Option ScanState :=
  if s.ret ≠ none then none
  else
    match act with
    | .request result => if s.awaiting then none else some (s.request result)
    | .visit v => if s.awaiting then some (s.visit max v) else none
    | .response result => if s.awaiting then some (s.response max result) else none

/-- What is asked of the command at any time. -/
structure Ok (max : ℤ) (s : ScanState) : Prop where
  retrieved_nonneg : 0 ≤ s.mRetrieved
  retrieved_le : s.mRetrieved ≤ max
  sound : ∀ scan ∈ s.scans, scan.Sound
  requests_le : s.requests ≤ 10
  num_eq : s.ret = some wifiSuccess → s.mNum = some (s.scans.length : ℤ)

/-- No scan is stored while its number of results is negative. -/
def Regular (max : ℤ) (s : ScanState) : ScanAct → Prop
  | .visit (.results _ _) => s.locals.skipping = false → s.mRetrieved < max → 0 ≤ s.locals.num
  | _ => True

instance (max : ℤ) (s : ScanState) : DecidablePred (Regular max s)
  | .visit (.results _ _) => inferInstanceAs (Decidable (_ → _ → _))
  | .visit (.complete _) | .visit .nest | .visit (.scanId _) | .visit (.scanFlags _) => isTrue trivial
  | .visit (.numOfResults _) | .visit (.chBucketBitmask _) | .request _ | .response _ => isTrue trivial

/-! ## What a step does -/

/-- The number of results that is stored. -/
def stored (num : ℤ) (len : ℕ) : ℤ := min (min num (len / scanResultSize : ℕ)) maxApCachePerScan

/-- The scan that is stored is sound exactly if the number is not negative. -/
lemma sound_iff (scanId : ℤ) (flags : ℕ) (num mask : ℤ) (data len : ℕ) :
    CachedScan.Sound ⟨scanId, flags, stored num len, mask,
        (List.range (stored num len).toNat).map (fun i => data + scanResultSize * i), data, len⟩
      ↔ 0 ≤ num := by
  have hsize : (0 : ℤ) ≤ stored num len ↔ 0 ≤ num := by
    unfold stored maxApCachePerScan
    generalize len / scanResultSize = room
    omega
  refine ⟨fun h => hsize.mp h.nonneg, fun hnum => ?_⟩
  have hnonneg := hsize.mpr hnum
  refine ⟨hnonneg, Int.min_le_right _ _, ?_, fun a ha => ?_⟩
  · simp only [length_map, length_range]
    omega
  · obtain ⟨i, hi, rfl⟩ := mem_map.mp ha
    have hi' : i + 1 ≤ len / scanResultSize := by
      have hlt := mem_range.mp hi
      unfold stored at hlt
      omega
    have hbytes : scanResultSize * (i + 1) ≤ len :=
      Nat.le_trans (Nat.mul_le_mul_left _ hi') (Nat.mul_div_le len scanResultSize)
    rw [Nat.mul_succ] at hbytes
    show data ≤ data + scanResultSize * i ∧ data + scanResultSize * i + scanResultSize ≤ data + len
    omega

/-- What a visit can do: change what `execute` does not look at, or store a scan. -/
inductive Visited (max : ℤ) (s : ScanState) (regular : Prop) : ScanState → Prop
  | quiet (mCompleted : ℕ) (locals : ScanLocals) (hreg : regular) :
      Visited max s regular { s with mCompleted := mCompleted, locals := locals }
  | store (locals : ScanLocals) (scan : CachedScan) (hroom : s.mRetrieved < max)
      (hreg : regular ↔ scan.Sound) :
      Visited max s regular
        { s with locals := locals, scans := s.scans ++ [scan], mRetrieved := s.mRetrieved + 1 }

variable {regular : Prop}

lemma setLocals_visited (max : ℤ) (s : ScanState) (locals : ScanLocals) (hreg : regular) :
    Visited max s regular (s.setLocals locals) := by
  unfold setLocals
  split_ifs
  · exact .quiet s.mCompleted s.locals hreg
  · exact .quiet s.mCompleted locals hreg

lemma visit_visited (max : ℤ) (s : ScanState) (v : ScanVisit) :
    Visited max s (Regular max s (.visit v)) (s.visit max v) := by
  cases v with
  | complete flag => exact .quiet flag s.locals trivial
  | nest => exact .quiet s.mCompleted .zero trivial
  | scanId | scanFlags | numOfResults | chBucketBitmask => exact setLocals_visited max s _ trivial
  | results data len =>
    simp only [visit, storeScan]
    split_ifs with hskip hzero hfull
    · exact .quiet s.mCompleted s.locals (by simp [Regular, hskip])
    · exact .quiet s.mCompleted s.locals (by simp [Regular, hzero])
    · exact .quiet s.mCompleted _ fun _ hroom => by omega
    · have hroom : s.mRetrieved < max := by omega
      refine .store _ _ hroom ?_
      rw [Regular, ← stored, sound_iff]
      simp [hskip, hroom]

/-! ## Executions -/

/-- What holds of the scans and the requests. -/
structure Base (max : ℤ) (s : ScanState) : Prop where
  retrieved_eq : s.mRetrieved = s.scans.length
  retrieved_le : s.mRetrieved ≤ max
  sound : ∀ scan ∈ s.scans, scan.Sound
  requests_le : s.requests ≤ 10

/-- And while `execute` runs, a request was sent in each round so far. -/
structure Inv (max : ℤ) (s : ScanState) : Prop extends Base max s where
  num_eq : s.ret = some wifiSuccess → s.mNum = some (s.scans.length : ℤ)
  rounds : s.ret = none → s.i < 10 ∧ s.requests = s.i + if s.awaiting then 1 else 0

variable {max : ℤ} {s s' : ScanState}

lemma Inv.ok (h : s.Inv max) : s.Ok max :=
  ⟨by rw [h.retrieved_eq]; exact Int.natCast_nonneg _, h.retrieved_le, h.sound, h.requests_le, h.num_eq⟩

lemma Base.finish (h : s.Base max) : s.finish.Inv max where
  toBase := ⟨h.retrieved_eq, h.retrieved_le, h.sound, h.requests_le⟩
  num_eq _ := congrArg some h.retrieved_eq
  rounds hret := absurd hret (some_ne_none _)

variable {result : ℤ}

lemma Base.fail (h : s.Base max) (hresult : result ≠ wifiSuccess) : Inv max { s with ret := some result } where
  toBase := ⟨h.retrieved_eq, h.retrieved_le, h.sound, h.requests_le⟩
  num_eq hret := absurd (Option.some.inj hret) hresult
  rounds hret := absurd hret (some_ne_none _)

lemma Base.loop (h : s.Base max) (hret : s.ret = none) (hawait : s.awaiting = false)
    (hrounds : s.requests = s.i) : (s.loop max).Inv max := by
  unfold ScanState.loop
  split_ifs with hmore
  · exact ⟨h, by simp [hret], fun _ => ⟨hmore.1, by simp [hawait, hrounds]⟩⟩
  · exact h.finish

lemma start_inv (hmax : 0 ≤ max) : (start max).Inv max :=
  Base.loop ⟨rfl, hmax, by simp, by simp⟩ rfl rfl rfl

lemma Inv.visit (h : s.Inv max) (hret : s.ret = none)
    (hv : Visited max s regular s') (hreg : regular) : s'.Inv max := by
  have hrounds := h.rounds hret
  cases hv with
  | quiet mCompleted locals _ =>
    exact ⟨⟨h.retrieved_eq, h.retrieved_le, h.sound, h.requests_le⟩, by simp [hret], fun _ => hrounds⟩
  | store locals scan hroom hsound =>
    refine ⟨⟨?_, ?_, ?_, h.requests_le⟩, by simp [hret], fun _ => hrounds⟩
    · simp [h.retrieved_eq]
    · exact hroom
    · intro scan' hmem
      rcases mem_append.mp hmem with hmem | hmem
      · exact h.sound scan' hmem
      · rw [mem_singleton.mp hmem]
        exact hsound.mp hreg

lemma step_request :
    s.step max (.request result) = some s' ↔ s.ret = none ∧ s.awaiting = false ∧ s.request result = s' := by
  cases hret : s.ret <;> cases hawait : s.awaiting <;> simp [step, hret, hawait]

lemma step_visit {v : ScanVisit} :
    s.step max (.visit v) = some s' ↔ s.ret = none ∧ s.awaiting = true ∧ s.visit max v = s' := by
  cases hret : s.ret <;> cases hawait : s.awaiting <;> simp [step, hret, hawait]

lemma step_response :
    s.step max (.response result) = some s'
      ↔ s.ret = none ∧ s.awaiting = true ∧ s.response max result = s' := by
  cases hret : s.ret <;> cases hawait : s.awaiting <;> simp [step, hret, hawait]

lemma Inv.request (h : s.Inv max) (hret : s.ret = none)
    (hawait : s.awaiting = false) (result : ℤ) : (s.request result).Inv max := by
  obtain ⟨hlt, hrequests⟩ := h.rounds hret
  simp only [hawait, Bool.false_eq_true, if_false, Nat.add_zero] at hrequests
  unfold ScanState.request
  split_ifs with hneg
  · exact h.toBase.fail (by unfold wifiSuccess; omega)
  · refine ⟨⟨h.retrieved_eq, h.retrieved_le, h.sound, ?_⟩, by simp [hret], fun _ => ⟨hlt, ?_⟩⟩
    · show s.requests + 1 ≤ 10
      omega
    · simp [hrequests]

lemma Inv.response (h : s.Inv max) (hret : s.ret = none)
    (hawait : s.awaiting = true) (result : ℤ) : (s.response max result).Inv max := by
  unfold ScanState.response
  split_ifs with hfail
  · exact h.toBase.fail hfail
  · exact h.toBase.finish
  · refine Base.loop ⟨h.retrieved_eq, h.retrieved_le, h.sound, h.requests_le⟩ hret rfl ?_
    simpa [hawait] using (h.rounds hret).2

lemma step_inv {act : ScanAct} (h : s.Inv max) (hreg : s.Regular max act)
    (hs' : s.step max act = some s') : s'.Inv max := by
  cases act with
  | request result =>
    obtain ⟨hret, hawait, rfl⟩ := step_request.mp hs'
    exact h.request hret hawait result
  | visit v =>
    obtain ⟨hret, -, rfl⟩ := step_visit.mp hs'
    exact h.visit hret (visit_visited max s v) hreg
  | response result =>
    obtain ⟨hret, hawait, rfl⟩ := step_response.mp hs'
    exact h.response hret hawait result

lemma Visited.regular_of_ok (h : Visited max s regular s') (hok : s'.Ok max) : regular := by
  cases h with
  | quiet _ _ hreg => exact hreg
  | store locals scan hroom hsound =>
    exact hsound.mpr (hok.sound scan (mem_append_right _ (mem_singleton_self scan)))

lemma not_ok_of_irregular {act : ScanAct} (hirr : ¬ s.Regular max act)
    (hs' : s.step max act = some s') : ¬ s'.Ok max := by
  cases act with
  | request | response => exact absurd trivial hirr
  | visit v =>
    obtain ⟨-, -, rfl⟩ := step_visit.mp hs'
    exact fun hok => hirr ((visit_visited max s v).regular_of_ok hok)

/-- **The scans that are retrieved.**  Whatever the driver replies, the command is right all along its execution
iff no scan is stored while its number of results is negative. -/
theorem scanResults_ok_iff (max : ℤ) (hmax : 0 ≤ max) (exchanges : List Exchange) (s : ScanState)
    (hrun : run (step max) (start max) (exchanges.flatMap Exchange.acts) = some s) :
    Along (step max) (Ok max) (start max) (exchanges.flatMap Exchange.acts)
      ↔ StepsMeet (step max) (Regular max) (start max) (exchanges.flatMap Exchange.acts) :=
  along_iff_stepsMeet (fun _ _ _ h hreg hs' => step_inv h hreg hs') (fun _ h => h.ok)
    (fun _ _ _ _ hirr hs' => not_ok_of_irregular hirr hs') (start_inv hmax) hrun

/-- A reply with one scan of one record, whose number of results is `count`. -/
def oneScanReply (count : UInt8) (top : UInt8) : DriverReply where
  mem := .ofList
    [108, 0, 0, 0,
      104, 0, 32, 0,
        8, 0, 30, 0, count, top, top, top,
        92, 0, 32, 0]
  isVendor := true
  vendorData := some 0
  vendorDataLen := 108

theorem results_inside_oneScan : .results 20 88 ∈ (oneScanReply 1 0).visits
    ∧ nlaData 0 ≤ 20 ∧ 20 + 88 ≤ 0 + nlaTotalLen (oneScanReply 1 0).mem 0 := by
  have hvisit : .results 20 88 ∈ (oneScanReply 1 0).visits := by decide
  exact ⟨hvisit, results_inside rfl hvisit⟩

/-- Two requests; the driver has one scan, and then no more. -/
def oneScan : List Exchange := [⟨0, [oneScanReply 1 0], 0⟩, ⟨0, [], 0⟩]

theorem scanResults_ok_oneScan :
    (run (step 5) (start 5) (oneScan.flatMap Exchange.acts)).map
        (fun s => (s.ret, s.mNum, s.scans.map fun scan => (scan.numResults, scan.entries)))
        = some (some 0, some 1, [(1, [20])])
      ∧ Along (step 5) (Ok 5) (start 5) (oneScan.flatMap Exchange.acts) := by
  refine (and_iff_left_of_imp fun hrun => ?_).mpr (by decide)
  obtain ⟨s, hs, -⟩ := map_eq_some_iff.mp hrun
  exact (scanResults_ok_iff 5 (by decide) oneScan s hs).mpr (by decide)

/-- **The defect**: the number 0xffffffff is -1, which is stored as the number of results. -/
theorem negative_count_stored :
    ∃ s, run (step 5) (start 5) (([⟨0, [oneScanReply 255 255], 0⟩] : List Exchange).flatMap Exchange.acts)
        = some s
      ∧ s.scans.map (fun scan => (scan.numResults, scan.entries)) = [(-1, [])] ∧ ¬ s.Ok 5 := by
  refine ⟨_, rfl, by decide, fun hok => ?_⟩
  exact absurd (hok.sound _ mem_cons_self).nonneg (by decide)

end ScanState

end Hal
