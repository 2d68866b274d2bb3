import Mathlib.Tactic.Linarith
import DeviceHal.Core.Bytes
import DeviceHal.Core.Fifo

/-!
# The sensor event queue

`SensorEventQueue` (`hal/sensors/SensorEventQueue.cpp`) is a fixed-size circular queue whose
writer fills slots *in place and without the lock*: `getWritableRegion` hands out a contiguous
region computed from `mStart` and `mSize`, the sub-HAL's `poll` writes into it, and only
`markAsWritten` makes the records readable.  In between the reader may have moved `mStart` and
shrunk `mSize`, so the region is used against a queue it was not computed from.

`QueueSys` is that protocol: the queue together with the region the one writer holds, stepped by
the writer's and the reader's critical sections and by the single slot writes of `poll`, in any
interleaving.

**What carries the proof** is `RegionOk`: an outstanding region starts at the cell after the last
readable record, does not wrap, and still fits beside the readable records.  A `dequeue` keeps
`mStart + mSize` fixed modulo the capacity and only makes room, so it cannot invalidate a region
it did not know of.

**The defect.**  The end of the region is computed in an `int` before it is cut off at the end of the array.  A request
that takes `firstWritable + requestedLength` past the largest `int` makes it negative, so that nothing is cut off, and
the length that is returned is the one that was asked for.

* **`sensorEventQueue_refines_fifo`** — in every interleaving in which the two sums of `getWritableRegion` fit an
  `int` (`Fits`) the queue is a bounded FIFO, and the writer is in nobody's way.
-/

namespace Hal

open List Option

variable {α : Type*}

/-! ## The queue -/

/-- `SensorEventQueue`.  `mData` is the heap array; only indices below `mCapacity` are in it.  The sums
that `getWritableRegion` makes of the counters are `int`s. -/
structure SensorEventQueue (α : Type*) where
  mCapacity : ℕ
  mStart : ℕ
  mSize : ℕ
  mData : ℕ → α

/-- What `getWritableRegion` returns: the index `*out` points at (`none` for `NULL`) and the
length. -/
structure WritableRegion where
  out : Option ℤ
  length : ℤ
deriving DecidableEq

namespace SensorEventQueue

/-- The constructor.  The array comes uninitialised, so its content is a parameter. -/
def new (capacity : ℕ) (mData : ℕ → α) : SensorEventQueue α := ⟨capacity, 0, 0, mData⟩

def getWritableRegion (q : SensorEventQueue α) (requestedLength : ℤ) : WritableRegion :=
  if q.mSize = q.mCapacity ∨ requestedLength ≤ 0 then ⟨none, 0⟩
  else
    -- Start writing after the last readable record.
    let firstWritable := (wrapInt (q.mStart + q.mSize)).tmod q.mCapacity
    let lastWritable := wrapInt (firstWritable + requestedLength - 1)
    -- Don't go past the end of the data array.
    let lastWritable := if lastWritable > q.mCapacity - 1 then (q.mCapacity : ℤ) - 1 else lastWritable
    -- Don't go into the readable region.
    let lastWritable :=
      if firstWritable < q.mStart ∧ lastWritable ≥ q.mStart then (q.mStart : ℤ) - 1 else lastWritable
    ⟨some firstWritable, wrapInt (lastWritable - firstWritable + 1)⟩

/-- Only a region that is too long can take `mSize` past the largest `int`; it is kept as a number here. -/
def markAsWritten (q : SensorEventQueue α) (count : ℕ) : SensorEventQueue α :=
  { q with mSize := q.mSize + count }

def getSize (q : SensorEventQueue α) : ℕ := q.mSize

/-- `peek`: the first readable record, `none` for `NULL`. -/
def peek (q : SensorEventQueue α) : Option α :=
  if q.mSize = 0 then none else some (q.mData q.mStart)

def dequeue (q : SensorEventQueue α) : SensorEventQueue α :=
  if q.mSize = 0 then q
  else { q with mSize := q.mSize - 1, mStart := (q.mStart + 1) % q.mCapacity }

/-- A store through the pointer `getWritableRegion` returned.  What one outside the array does is not said. -/
def store (q : SensorEventQueue α) (k : ℤ) (e : α) : SensorEventQueue α :=
  if 0 ≤ k ∧ k < q.mCapacity then { q with mData := Function.update q.mData k.toNat e } else q

def contents (q : SensorEventQueue α) : List α :=
  ringWindow q.mCapacity q.mData q.mStart q.mSize

def Readable (q : SensorEventQueue α) (k : ℤ) : Prop :=
  ∃ j < q.mSize, k = ((q.mStart + j) % q.mCapacity : ℕ)

structure InRange (q : SensorEventQueue α) : Prop where
  start_lt : q.mStart < q.mCapacity
  size_le : q.mSize ≤ q.mCapacity

/-- A queue with room for its sums in an `int`; the HAL's have a capacity of 36. -/
structure WellFormed (q : SensorEventQueue α) : Prop extends q.InRange where
  capacity_le : q.mCapacity ≤ 1073741824

/-- The sums of `getWritableRegion` fit an `int`, if it comes to them. -/
def Fits (q : SensorEventQueue α) (requestedLength : ℤ) : Prop :=
  q.mSize ≠ q.mCapacity → 0 < requestedLength →
    q.mStart + q.mSize < 2147483648
      ∧ ((q.mStart + q.mSize) % q.mCapacity : ℕ) + requestedLength < 2147483648

instance (q : SensorEventQueue α) (requestedLength : ℤ) : Decidable (q.Fits requestedLength) :=
  inferInstanceAs (Decidable (_ → _ → _ ∧ _))

@[simp] lemma length_contents (q : SensorEventQueue α) : q.contents.length = q.mSize := by
  simp [contents]

lemma new_inRange {capacity : ℕ} (h : 1 ≤ capacity) (mData : ℕ → α) :
    (new capacity mData).InRange := ⟨h, Nat.zero_le _⟩

variable {q : SensorEventQueue α}

/-- The end of the readable region, with its one possible wrap made explicit. -/
lemma InRange.end_eq (h : q.InRange) :
    (q.mStart + q.mSize) % q.mCapacity
      = if q.mStart + q.mSize < q.mCapacity then q.mStart + q.mSize
        else q.mStart + q.mSize - q.mCapacity := by
  have hstart := h.start_lt
  have hsize := h.size_le
  split_ifs with hlt
  · exact Nat.mod_eq_of_lt hlt
  · rw [Nat.mod_eq_sub_mod (by omega), Nat.mod_eq_of_lt (by omega)]

lemma WellFormed.fits (h : q.WellFormed) {requestedLength : ℤ} (hreq : requestedLength ≤ 1073741824) :
    q.Fits requestedLength := by
  intro _ _
  have hstart := h.start_lt
  have hsize := h.size_le
  have hcap := h.capacity_le
  have hmod : (q.mStart + q.mSize) % q.mCapacity < q.mCapacity := Nat.mod_lt _ (by omega)
  constructor <;> omega

/-- A region that may be held against `q`: it starts right after the readable records, does not
run off the array, and fits beside the readable records. -/
def RegionOk (q : SensorEventQueue α) (r : WritableRegion) : Prop :=
  match r.out with
  | none => r.length = 0
  | some first =>
    first = ((q.mStart + q.mSize) % q.mCapacity : ℕ) ∧ first + r.length ≤ q.mCapacity
      ∧ q.mSize + r.length ≤ q.mCapacity

/-- **The region handed out.**  It may be held against the queue it was computed from, and it is
non-empty whenever there is space and the request is positive. -/
theorem getWritableRegion_spec (h : q.InRange) {requestedLength : ℤ} (hfits : q.Fits requestedLength) :
    q.RegionOk (q.getWritableRegion requestedLength)
      ∧ (q.mSize < q.mCapacity → 0 < requestedLength →
          1 ≤ (q.getWritableRegion requestedLength).length) := by
  have hstart := h.start_lt
  have hsize := h.size_le
  by_cases hnone : q.mSize = q.mCapacity ∨ requestedLength ≤ 0
  -- the `NULL` return: no space, or nothing asked for
  · rw [getWritableRegion, if_pos hnone]
    refine ⟨rfl, fun hlt hpos => ?_⟩
    rcases hnone with hfull | hneg <;> omega
  · rw [getWritableRegion, if_neg hnone]
    rw [not_or, not_le] at hnone
    obtain ⟨hspace, hpos⟩ := hnone
    obtain ⟨hsum, hlast⟩ := hfits hspace hpos
    have hend := h.end_eq
    have hfirst : (wrapInt (q.mStart + q.mSize)).tmod q.mCapacity = ((q.mStart + q.mSize) % q.mCapacity : ℕ) := by
      rw [wrapInt_eq_self (by omega) (by omega), Int.tmod_eq_emod_of_nonneg (by omega)]
      rfl
    dsimp only [RegionOk]
    rw [hfirst]
    generalize (q.mStart + q.mSize) % q.mCapacity = first at *
    rw [wrapInt_eq_self (x := first + requestedLength - 1) (by omega) (by omega)]
    split_ifs at hend <;> split_ifs <;> rw [wrapInt_eq_self (by omega) (by omega)] <;>
      refine ⟨⟨rfl, ?_, ?_⟩, fun _ _ => ?_⟩ <;> omega

lemma peek_eq_head? (h : q.InRange) : q.peek = q.contents.head? := by
  unfold peek
  split_ifs with hempty
  · simp [contents, hempty]
  · obtain ⟨n, hn⟩ := Nat.exists_eq_succ_of_ne_zero hempty
    rw [contents, hn, Nat.succ_eq_add_one, ringWindow_succ _ _ h.start_lt, List.head?_cons]

lemma contents_dequeue (h : q.InRange) : q.dequeue.contents = q.contents.tail := by
  unfold dequeue
  split_ifs with hempty
  · simp [contents, hempty]
  · obtain ⟨n, hn⟩ := Nat.exists_eq_succ_of_ne_zero hempty
    simp only [contents, hn, Nat.succ_eq_add_one, Nat.add_sub_cancel, ringWindow_succ _ _ h.start_lt, tail_cons]

lemma dequeue_inRange (h : q.InRange) : q.dequeue.InRange := by
  have hsize := h.size_le
  unfold dequeue
  split_ifs
  · exact h
  · exact ⟨Nat.mod_lt _ (by omega), by show q.mSize - 1 ≤ q.mCapacity; omega⟩

@[simp] lemma dequeue_mCapacity (q : SensorEventQueue α) : q.dequeue.mCapacity = q.mCapacity := by
  unfold dequeue; split_ifs <;> rfl

lemma dequeue_wellFormed (h : q.WellFormed) : q.dequeue.WellFormed :=
  ⟨dequeue_inRange h.toInRange, (dequeue_mCapacity q).trans_le h.capacity_le⟩

/-- A region outlives a `dequeue`: the end of the readable records does not move. -/
lemma RegionOk.dequeue {r : WritableRegion} (h : q.RegionOk r) : q.dequeue.RegionOk r := by
  unfold SensorEventQueue.dequeue
  split_ifs with hempty
  · exact h
  · unfold RegionOk at h ⊢
    cases hout : r.out with
    | none => simpa only [hout] using h
    | some first =>
      simp only [hout] at h ⊢
      obtain ⟨hfirst, harr, hroom⟩ := h
      refine ⟨?_, harr, by omega⟩
      rw [hfirst, Nat.mod_add_mod]
      congr 2
      omega

variable {first len : ℤ} {i : ℕ} (h : q.RegionOk ⟨some first, len⟩) (hi : i < len)

include h hi

/-- Cell `i` of a held region is the `i`-th cell past the readable records. -/
lemma RegionOk.slot : first + i = ((q.mStart + (q.mSize + i)) % q.mCapacity : ℕ) := by
  obtain ⟨hfirst, harr, _⟩ := h
  have harr : first + len ≤ q.mCapacity := harr
  rw [← Nat.add_assoc, ← Nat.mod_add_mod, Nat.mod_eq_of_lt (by omega), hfirst]
  rfl

lemma RegionOk.inArray : 0 ≤ first + i ∧ first + i < q.mCapacity := by
  obtain ⟨hfirst, harr, _⟩ := h
  have harr : first + len ≤ q.mCapacity := harr
  constructor <;> omega

/-- **The writer's slots are not readable.** -/
lemma RegionOk.not_readable : ¬ q.Readable (first + i) := by
  rintro ⟨j, hj, heq⟩
  rw [h.slot hi, Int.natCast_inj] at heq
  have hroom : q.mSize + len ≤ q.mCapacity := h.2.2
  have := ringIndex_injOn (by omega) (by omega) heq
  omega

lemma RegionOk.store_eq (e : α) :
    q.store (first + i) e = { q with mData := Function.update q.mData (first + i).toNat e } := if_pos (h.inArray hi)

lemma RegionOk.contents_store (e : α) : (q.store (first + i) e).contents = q.contents := by
  rw [h.store_eq hi]
  refine ringWindow_update_of_notMem _ _ fun j hj heq => ?_
  refine h.not_readable hi ⟨j, hj, ?_⟩
  rw [heq, Int.toNat_of_nonneg (h.inArray hi).1]

end SensorEventQueue

/-! ## One writer, one reader -/

/-- The queue and the region the writer holds while it polls outside the lock. -/
structure QueueSys (α : Type*) where
  queue : SensorEventQueue α
  region : Option WritableRegion

/-- The critical sections of the two threads, and the single slot writes of `poll`. -/
inductive QueueAct (α : Type*) where
  | getWritableRegion (requestedLength : ℤ)
  | pollWrite (i : ℕ) (e : α)
  | markAsWritten (count : ℕ)
  | peek
  | dequeue

namespace QueueSys

/-- An empty queue, no region handed out. -/
def init (capacity : ℕ) (mData : ℕ → α) : QueueSys α := ⟨SensorEventQueue.new capacity mData, none⟩

/-- One step of the protocol.  There is one writer, so a region is taken only when none is held;
`poll` writes inside the region it was given and reports at most its length.  A poll that
returns nothing (`eventsPolled <= 0`) is `markAsWritten 0`.  A request is an `int`. -/
def step (s : QueueSys α) : QueueAct α → Option (QueueSys α)
  | .getWritableRegion requestedLength =>
    if s.region = none ∧ requestedLength < 2147483648 then
      some { s with region := some (s.queue.getWritableRegion requestedLength) }
    else none
  | .pollWrite i e =>
    match s.region with
    | some ⟨some first, length⟩ =>
      if (i : ℤ) < length then some { s with queue := s.queue.store (first + i) e } else none
    | _ => none
  | .markAsWritten count =>
    match s.region with
    | some r => if (count : ℤ) ≤ r.length then some ⟨s.queue.markAsWritten count, none⟩ else none
    | none => none
  | .peek => some s
  | .dequeue => some { s with queue := s.queue.dequeue }

/-- The records the first `count` slots of a region hold. -/
def regionEvents (q : SensorEventQueue α) (r : WritableRegion) (count : ℕ) : List α :=
  r.out.elim [] fun first => (List.range count).map fun i : ℕ => q.mData (first + i).toNat

/-- What a step is to an observer of the queue. -/
def label (s : QueueSys α) : QueueAct α → List (FifoOp α)
  | .markAsWritten count =>
    s.region.elim [] fun r => [.enqueue (regionEvents s.queue r count)]
  | .dequeue => s.queue.peek.elim [] fun e => [.dequeue e]
  | _ => []

def Writable (s : QueueSys α) (k : ℤ) : Prop :=
  ∃ first length, ∃ i : ℕ, s.region = some ⟨some first, length⟩ ∧ i < length ∧ k = first + i

/-- The sums of a `getWritableRegion` fit. -/
def Fits (s : QueueSys α) : QueueAct α → Prop
  | .getWritableRegion requestedLength => s.queue.Fits requestedLength
  | _ => True

instance (s : QueueSys α) : DecidablePred s.Fits
  | .getWritableRegion requestedLength => inferInstanceAs (Decidable (s.queue.Fits requestedLength))
  | .pollWrite _ _ | .markAsWritten _ | .peek | .dequeue => isTrue trivial

structure Inv (capacity : ℕ) (s : QueueSys α) : Prop where
  range : s.queue.InRange
  capacity_eq : s.queue.mCapacity = capacity
  region_ok : ∀ r, s.region = some r → s.queue.RegionOk r

variable {capacity count : ℕ}

lemma init_inv (h : 1 ≤ capacity) (mData : ℕ → α) :
    Inv capacity (init capacity mData) where
  range := SensorEventQueue.new_inRange h mData
  capacity_eq := rfl
  region_ok := by simp [init]

variable {r : WritableRegion}

lemma contents_markAsWritten {q : SensorEventQueue α} (h : q.RegionOk r) (hcount : count ≤ r.length) :
    (q.markAsWritten count).contents = q.contents ++ regionEvents q r count := by
  obtain ⟨out, len⟩ := r
  have hcount : count ≤ len := hcount
  cases out with
  | none =>
    have hzero : len = 0 := h
    obtain rfl : count = 0 := by omega
    simp [regionEvents, SensorEventQueue.contents, SensorEventQueue.markAsWritten]
  | some first =>
    simp only [SensorEventQueue.contents, SensorEventQueue.markAsWritten, ringWindow_append,
      regionEvents, elim_some]
    refine congrArg _ (map_congr_left fun i hi => ?_)
    have hi : (i : ℤ) < len := lt_of_lt_of_le (Int.ofNat_lt.mpr (mem_range.mp hi)) hcount
    rw [h.slot hi, Int.toNat_natCast, Nat.mod_add_mod, Nat.add_assoc]

lemma size_add_le {q : SensorEventQueue α} (hrange : q.InRange) (h : q.RegionOk r)
    (hcount : count ≤ r.length) : q.mSize + count ≤ q.mCapacity := by
  have hsize := hrange.size_le
  rcases r with ⟨out, len⟩
  have hlen : (count : ℤ) ≤ len := hcount
  cases out with
  | none =>
    have hzero : len = 0 := h
    omega
  | some first =>
    have hfit : q.mSize + len ≤ q.mCapacity := h.2.2
    omega

/-- The relation of the refinement: the abstract queue holds the readable records. -/
def Refines (capacity : ℕ) (s : QueueSys α) (q : BoundedFifo α) : Prop :=
  Inv capacity s ∧ q.capacity = capacity ∧ q.items = s.queue.contents

variable {s : QueueSys α} {q : BoundedFifo α}

lemma Refines.markAsWritten (h : Refines capacity s q) (hregion : s.region = some r) (hcount : count ≤ r.length) :
    ∃ q', run BoundedFifo.step q (label s (.markAsWritten count)) = some q'
      ∧ Refines capacity { s with queue := s.queue.markAsWritten count, region := none } q' := by
  rcases h with ⟨hinv, hcap, hitems⟩
  have hok := hinv.region_ok _ hregion
  have hcontents := contents_markAsWritten hok hcount
  have hroom := size_add_le hinv.range hok hcount
  have hfits : (q.items ++ regionEvents s.queue r count).length ≤ q.capacity := by
    rw [hitems, ← hcontents, SensorEventQueue.length_contents, hcap, ← hinv.capacity_eq]
    exact hroom
  refine ⟨⟨q.capacity, q.items ++ regionEvents s.queue r count, hfits⟩, ?_,
    ⟨⟨hinv.range.start_lt, hroom⟩, hinv.capacity_eq, by simp⟩, hcap, ?_⟩
  · simp only [label, hregion, elim_some, Hal.run, BoundedFifo.step_enqueue _ _ hfits, bind_some]
  · exact (congrArg (· ++ _) hitems).trans hcontents.symm

lemma Refines.dequeue (h : Refines capacity s q) :
    ∃ q', run BoundedFifo.step q (label s .dequeue) = some q'
      ∧ Refines capacity { s with queue := s.queue.dequeue } q' := by
  rcases h with ⟨hinv, hcap, hitems⟩
  have hinv' : Inv capacity { s with queue := s.queue.dequeue } :=
    ⟨SensorEventQueue.dequeue_inRange hinv.range,
      (SensorEventQueue.dequeue_mCapacity s.queue).trans hinv.capacity_eq,
      fun r hr => (hinv.region_ok r hr).dequeue⟩
  have hcontents : s.queue.dequeue.contents = q.items.tail := by
    rw [SensorEventQueue.contents_dequeue hinv.range, hitems]
  have hhead : s.queue.peek = q.items.head? := by
    rw [SensorEventQueue.peek_eq_head? hinv.range, hitems]
  cases hcases : q.items with
  | nil =>
    refine ⟨q, ?_, hinv', hcap, ?_⟩
    · simp [label, hhead, hcases]
    · simp [hcontents, hcases]
  | cons e es =>
    have hfits : es.length ≤ q.capacity := by
      have hlen := q.fits
      rw [hcases, length_cons] at hlen
      omega
    refine ⟨⟨q.capacity, es, hfits⟩, ?_, hinv', hcap, ?_⟩
    · simp only [label, hhead, hcases, List.head?_cons, elim_some, Hal.run,
        BoundedFifo.step_dequeue q e es hcases hfits, bind_some]
    · simp [hcontents, hcases]

/-- **One step.**  Every step whose sums fit keeps the invariant and is the abstract queue's run over its
label. -/
theorem step_simulation {s' : QueueSys α} {act : QueueAct α}
    (h : Refines capacity s q) (hfits : s.Fits act) (hstep : s.step act = some s') :
    ∃ q', run BoundedFifo.step q (label s act) = some q' ∧ Refines capacity s' q' := by
  have hinv := h.1
  cases act with
  | getWritableRegion requestedLength =>
    obtain ⟨-, rfl⟩ := ite_some_none_eq_some.mp hstep
    refine ⟨q, rfl, ⟨hinv.range, hinv.capacity_eq, fun r hr => ?_⟩, h.2⟩
    cases hr
    exact (SensorEventQueue.getWritableRegion_spec hinv.range hfits).1
  | pollWrite i e =>
    simp only [step] at hstep
    split at hstep
    · next first length hregion =>
      obtain ⟨hi, rfl⟩ := ite_some_none_eq_some.mp hstep
      have hok := hinv.region_ok _ hregion
      have hcontents := hok.contents_store hi e
      rw [hok.store_eq hi] at hcontents ⊢
      exact ⟨q, rfl, ⟨⟨hinv.range.start_lt, hinv.range.size_le⟩, hinv.capacity_eq, hinv.region_ok⟩, h.2.1,
        h.2.2.trans hcontents.symm⟩
    · cases hstep
  | markAsWritten count =>
    simp only [step] at hstep
    split at hstep
    · next r hregion =>
      obtain ⟨hcount, rfl⟩ := ite_some_none_eq_some.mp hstep
      exact h.markAsWritten hregion hcount
    · cases hstep
  | peek =>
    cases hstep
    exact ⟨q, rfl, h⟩
  | dequeue =>
    cases hstep
    exact h.dequeue

/-- **The sensor event queue refines a bounded FIFO.**  In every state that an interleaving of the writer and the
reader reaches in which the sums of every `getWritableRegion` fit an `int`: the size is within the capacity; the slots in
the writer's hands are slots of the array and none of them is readable; a positive request whose sums fit gets a
non-empty region whenever there is space; and the history of records marked and records dequeued is a
history of the bounded FIFO, which holds exactly the readable records — so what was marked is
what was dequeued followed by what is still readable. -/
theorem sensorEventQueue_refines_fifo (capacity : ℕ) (hcapacity : 1 ≤ capacity) (mData : ℕ → α)
    (acts : List (QueueAct α)) (s : QueueSys α) (hrun : run step (init capacity mData) acts = some s)
    (hfits : StepsMeet step Fits (init capacity mData) acts) :
    s.queue.mCapacity = capacity ∧ s.queue.mSize ≤ s.queue.mCapacity
      ∧ (∀ k, s.Writable k → 0 ≤ k ∧ k < s.queue.mCapacity ∧ ¬ s.queue.Readable k)
      ∧ (∀ requestedLength : ℤ, s.queue.Fits requestedLength → s.queue.mSize < s.queue.mCapacity →
          0 < requestedLength → 1 ≤ (s.queue.getWritableRegion requestedLength).length)
      ∧ (∃ q : BoundedFifo α,
          run BoundedFifo.step (BoundedFifo.empty capacity)
              (trace step label (init capacity mData) acts) = some q
            ∧ q.items = s.queue.contents)
      ∧ enqueued (trace step label (init capacity mData) acts)
          = dequeued (trace step label (init capacity mData) acts) ++ s.queue.contents := by
  have hinit : (BoundedFifo.empty capacity : BoundedFifo α).items
      = (init capacity mData).queue.contents := rfl
  obtain ⟨q, hq, hinv, _, hitems⟩ :=
    run_of_simulation (R := Refines capacity) (fun _ _ _ _ hR hC hs' => step_simulation hR hC hs')
      ⟨init_inv hcapacity mData, rfl, hinit⟩ hfits hrun
  refine ⟨hinv.capacity_eq, hinv.range.size_le, ?_, ?_, ⟨q, hq, hitems⟩, ?_⟩
  · rintro k ⟨first, length, i, hregion, hi, rfl⟩
    have hok := hinv.region_ok _ hregion
    exact ⟨(hok.inArray hi).1, (hok.inArray hi).2, hok.not_readable hi⟩
  · intro requestedLength hrequest hspace hpos
    exact (SensorEventQueue.getWritableRegion_spec hinv.range hrequest).2 hspace hpos
  · have hcons := BoundedFifo.conservation hq
    rw [hitems] at hcons
    simpa [BoundedFifo.empty] using hcons

/-- Two records, a dequeue, then a region taken and a second dequeue before its record is marked in the wrapped slot. -/
def wrapped : List (QueueAct ℕ) :=
  [.getWritableRegion 2, .pollWrite 0 5, .pollWrite 1 6, .markAsWritten 2, .dequeue, .getWritableRegion 2,
    .pollWrite 0 7, .dequeue, .markAsWritten 1]

theorem sensorEventQueue_refines_fifo_wrapped :
    ∃ s, run step (init 2 fun _ => 0) wrapped = some s
      ∧ StepsMeet step Fits (init 2 fun _ => 0) wrapped
      ∧ s.queue.contents = [7]
      ∧ enqueued (trace step label (init 2 fun _ => 0) wrapped) = [5, 6] ++ s.queue.contents := by
  have hfits : StepsMeet step Fits (init 2 fun _ => 0) wrapped := by decide
  have hdequeued : dequeued (trace step label (init 2 fun _ => 0) wrapped) = [5, 6] := by decide +kernel
  obtain ⟨s, hs, hcontents⟩ : ∃ s, run step (init 2 fun _ => 0) wrapped = some s ∧ s.queue.contents = [7] :=
    ⟨_, rfl, by decide +kernel⟩
  obtain ⟨-, -, -, -, -, hfifo⟩ := sensorEventQueue_refines_fifo 2 (by decide) (fun _ => 0) wrapped s hs hfits
  rw [hdequeued] at hfifo
  exact ⟨s, hs, hfits, hcontents, hfifo⟩

/-- **The defect**: a queue of three, empty, with `mStart` at 2.  The largest request gets what it asks for, from slot 2
on. -/
theorem largest_request_leaves_array :
    ∃ s, run step (init 3 fun _ => 0)
        [.getWritableRegion 3, .pollWrite 0 5, .pollWrite 1 6, .markAsWritten 2, .dequeue, .dequeue,
          .getWritableRegion 2147483647] = some s
      ∧ s.queue.mSize = 0 ∧ s.queue.mCapacity = 3 ∧ s.region = some ⟨some 2, 2147483647⟩
      ∧ s.Writable 3 ∧ ¬ ∀ k, s.Writable k → 0 ≤ k ∧ k < s.queue.mCapacity ∧ ¬ s.queue.Readable k := by
  have hregion : ∃ s, run step (init 3 fun _ => 0)
        [.getWritableRegion 3, .pollWrite 0 5, .pollWrite 1 6, .markAsWritten 2, .dequeue, .dequeue,
          .getWritableRegion 2147483647] = some s
      ∧ s.queue.mSize = 0 ∧ s.queue.mCapacity = 3 ∧ s.region = some ⟨some 2, 2147483647⟩ :=
    ⟨_, rfl, by decide, by decide, by decide +kernel⟩
  obtain ⟨s, hrun, hsize, hcap, hregion⟩ := hregion
  have hwritable : s.Writable 3 := ⟨2, 2147483647, 1, hregion, by decide, by decide⟩
  refine ⟨s, hrun, hsize, hcap, hregion, hwritable, fun hok => ?_⟩
  have hinside := (hok 3 hwritable).2.1
  rw [hcap] at hinside
  exact absurd hinside (by decide)

end QueueSys

end Hal
