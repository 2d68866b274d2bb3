import Mathlib.Data.List.Range
import DeviceHal.Core.Machine
import DeviceHal.Core.Netlink

/-!
# Round trip time measurements

The driver reports a measurement in any number of events.  `RttCommand::handleEvent` copies every result it finds
in one to a block of its own, in the order of arrival, and once an event says that the measurement is complete
hands the blocks to the caller, frees them and unregisters the command.

As in the scan results, the loops over an event are a list of visits (`RttEvent.visits`) read off its bytes; visits
and the end of the event drive the command.

**The defect.**  `rttResults` has room for 1024 results, and `currentIdx` is not compared with that.

* `locationElements` — where the two location elements of a result are looked for.
* `RttState.Delivered` — what is asked of the call of the handler and of the blocks.
* **`rtt_ok_iff`** — all is well along any events **iff** there is room for every result that is read.
-/

namespace Hal

open List Function

/-- `RTT_ATTRIBUTE`: the attributes that `handleEvent` does more with than to print them. -/
inductive RttAttr where
  | resultsComplete
  | resultsPerTarget
  | result

def RttAttr.ofType : ℕ → Option RttAttr
  | 30 => some .resultsComplete
  | 31 => some .resultsPerTarget
  | 33 => some .result
  | _ => none

/-- A visit of one of the two loops.  For a result, with what `malloc` returns: nothing, or a block of which the
bytes behind the copy are given. -/
inductive RttVisit where
  | complete (v : ℕ)
  | perTarget
  | result (payload : List UInt8) (malloc : Option Memory)

/-- An event: the attribute with the vendor data, if there is one, and what `malloc` returns for each result. -/
structure RttEvent where
  mem : Memory
  vendorData : Option ℕ
  malloc : ℕ → Option Memory

/-- `it.get_data()` and `it.get_len()`: the bytes of the payload. -/
def payloadBytes (mem : Memory) (attr : ℕ) : List UInt8 :=
  (List.range (nlaLen mem attr).toNat).map fun i => mem (nlaData attr + i)

namespace RttEvent

/-- The body of the inner loop, as far as it looks at the message. -/
def innerVisit (ev : RttEvent) (attr : ℕ) : List RttVisit :=
  match RttAttr.ofType (nlaType ev.mem attr) with
  | some .result => [.result (payloadBytes ev.mem attr) (ev.malloc attr)]
  | _ => []

def outerVisit (ev : RttEvent) (attr : ℕ) : List RttVisit :=
  match RttAttr.ofType (nlaType ev.mem attr) with
  | some .resultsComplete => [.complete (u32At ev.mem (nlaData attr))]
  | some .resultsPerTarget => .perTarget :: (attrs ev.mem attr).flatMap ev.innerVisit
  | _ => []

/-- The two loops of `handleEvent` over the vendor data. -/
def visits (ev : RttEvent) (vendorData : ℕ) : List RttVisit :=
  (attrs ev.mem vendorData).flatMap ev.outerVisit

end RttEvent

/-! ## Location elements

A result may be followed by elements with the location of the target.  `size` is `sizeof(wifi_rtt_result)`. -/

def dot11MngMeasureRequestId : UInt8 := 38

def dot11HdrLen : ℕ := 2

def dot11MeasureTypeLci : UInt8 := 8

def dot11MeasureTypeCivicloc : UInt8 := 11

/-- There is an element of the type at `ele`: the fields `id` and `type` of `dot11_rm_ie_t`. -/
def IsElement (block : Memory) (ele : ℕ) (type : UInt8) : Prop :=
  block ele = dot11MngMeasureRequestId ∧ block (ele + 4) = type

instance (block : Memory) (ele : ℕ) (type : UInt8) : Decidable (IsElement block ele type) :=
  inferInstanceAs (Decidable (_ ∧ _))

/-- `ele->len + DOT11_HDR_LEN`. -/
def elementLen (block : Memory) (ele : ℕ) : ℕ := (block (ele + 1)).toNat + dot11HdrLen

/-- `ele_2`, if it is of the type.  The size of a result has been taken from the length twice by then. -/
def secondElement (size : ℕ) (block : Memory) (len : ℕ) (type : UInt8) : Option ℕ :=
  let ele2 := size + elementLen block size
  if 0 < (len : ℤ) - size - size - elementLen block size ∧ IsElement block ele2 type then some ele2 else none

/-- The offsets that `LCI` and `LCR` are pointed to; `none` is a pointer left as the driver sent it. -/
def locationElements (size : ℕ) (block : Memory) (len : ℕ) : Option ℕ × Option ℕ :=
  if 0 < (len : ℤ) - size then
    if IsElement block size dot11MeasureTypeLci then
      (some size, secondElement size block len dot11MeasureTypeCivicloc)
    else if IsElement block size dot11MeasureTypeCivicloc then
      (secondElement size block len dot11MeasureTypeLci, some size)
    else (none, none)
  else (none, none)

/-! ## The command -/

def maxResults : ℕ := 1024

/-- A block that `malloc` returned, with a result.  `id` tells the blocks apart. -/
structure RttBlock where
  id : ℕ
  payload : List UInt8
  lci : Option ℕ
  lcr : Option ℕ

/-- Whether events still get to the command.  An event without vendor data is read through `NULL`. -/
inductive RttPhase where
  | running
  | completed
  | crashed
deriving DecidableEq

/-- `RttCommand`.  A store past the end of `rttResults` has a place of its own here; in the object it goes to the
members behind the array.  Ghosts: the number of blocks (`allocated`), the indices written (`stored`), the results
copied (`received`), what the handler was called with and the blocks freed. -/
structure RttState where
  mCompleted : ℤ
  currentIdx : ℕ
  totalCnt : ℕ
  rttResults : ℕ → Option RttBlock
  skipping : Bool
  phase : RttPhase
  allocated : ℕ
  stored : List ℕ
  received : List (List UInt8)
  calls : List (List (Option RttBlock))
  freed : List ℕ

/-- What drives the command: a visit, the end of an event, an event without vendor data. -/
inductive RttAct where
  | visit (v : RttVisit)
  | finish
  | noVendorData

/-- `handleEvent`. -/
def RttEvent.acts (ev : RttEvent) : List RttAct :=
  match ev.vendorData with
  | none => [.noVendorData]
  | some vendorData => (ev.visits vendorData).map RttAct.visit ++ [.finish]

namespace RttState

def start : RttState := ⟨0, 0, 0, fun _ => none, false, .running, 0, [], [], [], []⟩

def newBlock (size : ℕ) (s : RttState) (payload : List UInt8) (behind : Memory) : RttBlock :=
  let elements := locationElements size (fun i => payload.getD i (behind i)) payload.length
  ⟨s.allocated, payload, elements.1, elements.2⟩

/-- A result.  If there is no memory the measurement counts as complete and the rest of the nest is skipped. -/
def storeResult (size : ℕ) (s : RttState) (payload : List UInt8) : Option Memory → RttState
  | none =>
    { s with
      rttResults := update s.rttResults s.currentIdx none
      stored := s.stored ++ [s.currentIdx]
      mCompleted := 1
      skipping := true }
  | some behind =>
    { s with
      rttResults := update s.rttResults s.currentIdx (some (s.newBlock size payload behind))
      stored := s.stored ++ [s.currentIdx]
      totalCnt := s.totalCnt + 1
      currentIdx := s.currentIdx + 1
      allocated := s.allocated + 1
      received := s.received ++ [payload] }

def visit (size : ℕ) (s : RttState) : RttVisit → RttState
  | .complete v => { s with mCompleted := int32 v }
  | .perTarget => { s with skipping := false }
  | .result payload malloc => if s.skipping then s else s.storeResult size payload malloc

/-- The first `n` pointers of the array. -/
def pointers (s : RttState) (n : ℕ) : List (Option RttBlock) := (List.range n).map s.rttResults

/-- What `handleEvent` does behind its loops.  `free` does nothing with `NULL`. -/
def finish (s : RttState) : RttState :=
  if s.mCompleted = 0 then s
  else
    { s with
      calls := s.calls ++ [s.pointers s.totalCnt]
      freed := s.freed ++ ((s.pointers s.currentIdx).filterMap id).map RttBlock.id
      rttResults := fun i => if i < s.currentIdx then none else s.rttResults i
      totalCnt := 0
      currentIdx := 0
      phase := .completed }

def handle (size : ℕ) (s : RttState) : RttAct → RttState
  | .visit v => s.visit size v
  | .finish => s.finish
  | .noVendorData => { s with phase := .crashed }

/-- The command.  Once it is unregistered no event gets to it. -/
def step (size : ℕ) (s : RttState) (act : RttAct) : Option RttState :=
  match s.phase with
  | .running => some (s.handle size act)
  | _ => some s

/-- One call of the handler, with the results received, in order; each of their blocks freed once. -/
structure Delivered (s : RttState) (blocks : List RttBlock) : Prop where
  calls_eq : s.calls = [blocks.map some]
  payloads : blocks.map RttBlock.payload = s.received
  freed_eq : s.freed = blocks.map RttBlock.id
  freed_nodup : s.freed.Nodup

/-- What is asked of the command at any time. -/
structure Ok (s : RttState) : Prop where
  index_lt : ∀ i ∈ s.stored, i < maxResults
  pending : s.phase ≠ .completed → s.calls = [] ∧ s.freed = []
  delivered : s.phase = .completed → ∃ blocks, s.Delivered blocks

/-- There is room for a result that is read. -/
def Regular (s : RttState) : RttAct → Prop
  | .visit (.result _ _) => s.phase = .running → s.skipping = false → s.currentIdx < maxResults
  | _ => True

/-! ## The array while the measurement runs -/

/-- The array begins with the blocks so far. -/
structure Holding (s : RttState) (blocks : List RttBlock) : Prop where
  currentIdx_eq : s.currentIdx = blocks.length
  totalCnt_eq : s.totalCnt = blocks.length
  array : ∀ i < blocks.length, s.rttResults i = blocks[i]?
  payloads : blocks.map RttBlock.payload = s.received
  ids : blocks.map RttBlock.id = List.range s.allocated
  calls_eq : s.calls = []
  freed_eq : s.freed = []

variable {blocks : List RttBlock} {s : RttState}

lemma Holding.pointers_eq (h : s.Holding blocks) : s.pointers blocks.length = blocks.map some := by
  refine ext_getElem? fun i => ?_
  by_cases hi : i < blocks.length
  · simp [pointers, hi, h.array i hi]
  · simp [pointers, hi]

lemma Holding.array_update (h : s.Holding blocks) (b : Option RttBlock) {i : ℕ} (hi : i < blocks.length) :
    update s.rttResults s.currentIdx b i = blocks[i]? := by
  have hne : i ≠ s.currentIdx := by rw [h.currentIdx_eq]; omega
  rw [update_of_ne hne, h.array i hi]

lemma Holding.flags (h : s.Holding blocks) (mCompleted : ℤ)
    (skipping : Bool) : Holding { s with mCompleted := mCompleted, skipping := skipping } blocks :=
  ⟨h.currentIdx_eq, h.totalCnt_eq, h.array, h.payloads, h.ids, h.calls_eq, h.freed_eq⟩

/-- **A result that is read** becomes the last of the blocks, or there is no memory for it. -/
lemma Holding.storeResult (h : s.Holding blocks) (size : ℕ) (payload : List UInt8) (malloc : Option Memory) :
    ∃ blocks', (s.storeResult size payload malloc).Holding blocks' := by
  cases malloc with
  | none =>
    exact ⟨blocks, h.currentIdx_eq, h.totalCnt_eq, fun i hi => h.array_update none hi, h.payloads, h.ids,
      h.calls_eq, h.freed_eq⟩
  | some behind =>
    refine ⟨blocks ++ [s.newBlock size payload behind], ?_, ?_, fun i hi => ?_, ?_, ?_, h.calls_eq, h.freed_eq⟩
    · simp [RttState.storeResult, h.currentIdx_eq]
    · simp [RttState.storeResult, h.totalCnt_eq]
    · rw [length_append, length_singleton] at hi
      rcases Nat.lt_succ_iff_lt_or_eq.mp hi with hlt | rfl
      · rw [getElem?_append_left hlt]
        exact h.array_update _ hlt
      · rw [getElem?_append_right (le_refl _), Nat.sub_self, ← h.currentIdx_eq]
        exact update_self _ _ _
    · simp [RttState.storeResult, newBlock, h.payloads]
    · simp [RttState.storeResult, newBlock, h.ids, range_succ]

/-- **The end of the measurement** delivers the blocks and frees them. -/
lemma Holding.delivered (h : s.Holding blocks) (hcompleted : s.mCompleted ≠ 0) : s.finish.Delivered blocks := by
  have hcalls : s.finish.calls = [blocks.map some] := by
    simp [finish, hcompleted, h.calls_eq, h.totalCnt_eq, h.pointers_eq]
  have hfreed : s.finish.freed = blocks.map RttBlock.id := by
    simp [finish, hcompleted, h.freed_eq, h.currentIdx_eq, h.pointers_eq]
  refine ⟨hcalls, ?_, hfreed, ?_⟩
  · simpa [finish, hcompleted] using h.payloads
  · rw [hfreed, h.ids]
    exact nodup_range

/-! ## Whole runs -/

structure Inv (s : RttState) : Prop where
  index_lt : ∀ i ∈ s.stored, i < maxResults
  holding : s.phase = .running → ∃ blocks, s.Holding blocks
  pending : s.phase = .crashed → s.calls = [] ∧ s.freed = []
  delivered : s.phase = .completed → ∃ blocks, s.Delivered blocks

lemma Inv.ok (h : s.Inv) : s.Ok where
  index_lt := h.index_lt
  pending hphase := by
    cases hp : s.phase with
    | running =>
      obtain ⟨blocks, hblocks⟩ := h.holding hp
      exact ⟨hblocks.calls_eq, hblocks.freed_eq⟩
    | completed => exact absurd hp hphase
    | crashed => exact h.pending hp
  delivered := h.delivered

lemma Inv.of_holding (hindex : ∀ i ∈ s.stored, i < maxResults)
    (hphase : s.phase = .running) (h : s.Holding blocks) : s.Inv :=
  ⟨hindex, fun _ => ⟨blocks, h⟩, fun hp => by simp [hphase] at hp, fun hp => by simp [hphase] at hp⟩

lemma start_inv : start.Inv :=
  Inv.of_holding (by simp [start]) rfl
    (⟨rfl, rfl, fun i hi => absurd hi (Nat.not_lt_zero i), rfl, rfl, rfl, rfl⟩ : start.Holding [])

lemma storeResult_stored (size : ℕ) (s : RttState) (payload : List UInt8) (malloc : Option Memory) :
    (s.storeResult size payload malloc).stored = s.stored ++ [s.currentIdx] := by
  cases malloc <;> rfl

lemma storeResult_phase (size : ℕ) (s : RttState) (payload : List UInt8) (malloc : Option Memory) :
    (s.storeResult size payload malloc).phase = s.phase := by
  cases malloc <;> rfl

lemma Inv.visit (h : s.Inv) (hphase : s.phase = .running) (size : ℕ) (v : RttVisit)
    (hreg : s.Regular (.visit v)) : (s.visit size v).Inv := by
  obtain ⟨blocks, hblocks⟩ := h.holding hphase
  cases v with
  | complete flag => exact .of_holding h.index_lt hphase (hblocks.flags (int32 flag) s.skipping)
  | perTarget => exact .of_holding h.index_lt hphase (hblocks.flags s.mCompleted false)
  | result payload malloc =>
    cases hskip : s.skipping with
    | true =>
      rw [RttState.visit, hskip]
      exact h
    | false =>
      rw [RttState.visit, hskip]
      obtain ⟨blocks', hblocks'⟩ := hblocks.storeResult size payload malloc
      refine .of_holding (fun i hi => ?_) ((storeResult_phase size s payload malloc).trans hphase) hblocks'
      rw [if_neg Bool.false_ne_true, storeResult_stored] at hi
      rcases mem_append.mp hi with hi | hi
      · exact h.index_lt i hi
      · rw [mem_singleton.mp hi]
        exact hreg hphase hskip

lemma Inv.finish (h : s.Inv) (hphase : s.phase = .running) : s.finish.Inv := by
  obtain ⟨blocks, hblocks⟩ := h.holding hphase
  by_cases hcompleted : s.mCompleted = 0
  · rw [RttState.finish, if_pos hcompleted]
    exact h
  · have hdelivered := hblocks.delivered hcompleted
    have hp : s.finish.phase = .completed := by simp [RttState.finish, hcompleted]
    have hstored : s.finish.stored = s.stored := by simp [RttState.finish, hcompleted]
    refine ⟨by rw [hstored]; exact h.index_lt, ?_, ?_, fun _ => ⟨blocks, hdelivered⟩⟩
    · intro hrunning
      simp [hp] at hrunning
    · intro hcrashed
      simp [hp] at hcrashed

lemma Inv.noVendorData (h : s.Inv) (hphase : s.phase = .running) : Inv { s with phase := .crashed } := by
  obtain ⟨blocks, hblocks⟩ := h.holding hphase
  refine ⟨h.index_lt, ?_, fun _ => ⟨hblocks.calls_eq, hblocks.freed_eq⟩, ?_⟩
  · intro hrunning
    cases hrunning
  · intro hcompleted
    cases hcompleted

variable {size : ℕ} {s' : RttState} {act : RttAct}

lemma step_running (hphase : s.phase = .running) (hs' : s.step size act = some s') : s' = s.handle size act := by
  simpa [step, hphase] using hs'.symm

lemma step_over (hphase : s.phase ≠ .running) (hs' : s.step size act = some s') : s' = s := by
  cases hp : s.phase with
  | running => exact absurd hp hphase
  | completed | crashed => simpa [step, hp] using hs'.symm

lemma step_inv (h : s.Inv) (hreg : s.Regular act) (hs' : s.step size act = some s') : s'.Inv := by
  by_cases hphase : s.phase = .running
  · rw [step_running hphase hs']
    cases act with
    | visit v => exact h.visit hphase size v hreg
    | finish => exact h.finish hphase
    | noVendorData => exact h.noVendorData hphase
  · rw [step_over hphase hs']
    exact h

lemma not_ok_of_irregular (hirr : ¬ s.Regular act) (hs' : s.step size act = some s') : ¬ s'.Ok := by
  intro hok
  match act with
  | .finish | .noVendorData | .visit (.complete _) | .visit .perTarget => exact hirr trivial
  | .visit (.result payload malloc) =>
    refine hirr fun hphase hskip => ?_
    rw [step_running hphase hs'] at hok
    refine hok.index_lt s.currentIdx ?_
    simp only [handle, visit, hskip, Bool.false_eq_true, if_false, storeResult_stored]
    exact mem_append_right _ (mem_singleton_self _)

lemma step_total (size : ℕ) (s : RttState) (act : RttAct) : ∃ s', s.step size act = some s' := by
  cases hp : s.phase with
  | running => exact ⟨s.handle size act, by simp [step, hp]⟩
  | completed | crashed => exact ⟨s, by simp [step, hp]⟩

/-- **The results of a measurement.**  Whatever events the driver sends and wherever memory runs out, the command
is right all along iff there is room for every result that is read. -/
theorem rtt_ok_iff (size : ℕ) (events : List RttEvent) :
    Along (step size) Ok start (events.flatMap RttEvent.acts)
      ↔ StepsMeet (step size) Regular start (events.flatMap RttEvent.acts) := by
  obtain ⟨s, hrun⟩ := run_eq_some_of_total (step_total size) (events.flatMap RttEvent.acts) start
  exact along_iff_stepsMeet (fun _ _ _ h hreg hs' => step_inv h hreg hs') (fun _ h => h.ok)
    (fun _ _ _ _ hirr hs' => not_ok_of_irregular hirr hs') start_inv hrun

/-- An event with one result of one target, and the flag. -/
def oneResult (result completed : UInt8) : RttEvent where
  mem := .ofList
    [24, 0, 197, 0,
      12, 0, 31, 0,
        8, 0, 33, 0, result, 0, 0, 0,
      8, 0, 30, 0, completed, 0, 0, 0]
  vendorData := some 0
  malloc _ := some fun _ => 0

example :
    (run (step 72) start ([oneResult 7 0, oneResult 9 1].flatMap RttEvent.acts)).map
        (fun s => (s.calls.map fun call => call.map (Option.map RttBlock.payload), s.freed))
      = some ([[some [7, 0, 0, 0], some [9, 0, 0, 0]]], [0, 1]) := by decide

lemma run_oneResult (size : ℕ) (hphase : s.phase = .running) :
    ∃ s', run (step size) s (oneResult 7 0).acts = some s' ∧ s'.phase = .running
      ∧ s'.stored = s.stored ++ [s.currentIdx] ∧ s'.currentIdx = s.currentIdx + 1 := by
  have hacts : (oneResult 7 0).acts
      = [.visit .perTarget, .visit (.result [7, 0, 0, 0] (some fun _ => 0)), .visit (.complete 0), .finish] := rfl
  rw [hacts]
  simp [run, step, hphase, handle, visit, storeResult, finish, int32]

lemma run_results (size n : ℕ) :
    ∃ s, run (step size) start ((List.replicate n (oneResult 7 0)).flatMap RttEvent.acts) = some s
      ∧ s.phase = .running ∧ s.currentIdx = n := by
  induction n with
  | zero => exact ⟨start, rfl, rfl, rfl⟩
  | succ n ih =>
    obtain ⟨s, hrun, hphase, hidx⟩ := ih
    obtain ⟨s', hrun', hphase', -, hidx'⟩ := run_oneResult size hphase
    refine ⟨s', ?_, hphase', by rw [hidx', hidx]⟩
    rw [replicate_succ', flatMap_append, flatMap_singleton]
    exact run_append.mpr ⟨s, hrun, hrun'⟩

/-- **The defect**: 1025 events with a result each, of which the last is written behind the array. -/
theorem result_stored_past_array :
    ∃ s, run (step 72) start ((List.replicate 1025 (oneResult 7 0)).flatMap RttEvent.acts) = some s
      ∧ 1024 ∈ s.stored ∧ ¬ s.Ok := by
  obtain ⟨s, hrun, hphase, hidx⟩ := run_results 72 1024
  obtain ⟨s', hrun', -, hstored, -⟩ := run_oneResult 72 hphase
  have hmem : 1024 ∈ s'.stored := by
    rw [hstored, hidx]
    exact mem_append_right _ (mem_singleton_self 1024)
  refine ⟨s', ?_, hmem, fun hok => absurd (hok.index_lt 1024 hmem) (lt_irrefl 1024)⟩
  rw [replicate_succ', flatMap_append, flatMap_singleton]
  exact run_append.mpr ⟨s, hrun, hrun'⟩

end RttState

end Hal
