import Mathlib.Data.List.Sublists
import DeviceHal.Sensors.Multihal

/-!
# `poll`: merging the sub-HALs' queues

`sensors_poll_context_t::poll` walks the queues round-robin from `nextReadIndex`, moves one event
at a time into the caller's buffer with its handle remapped, and stops when the buffer is full or
a whole round found nothing.  If nothing was delivered it waits for a writer and starts over.

`PollState` is the loop's state, plus two ghost histories: what was dequeued, and what the writers
marked during the waits.  `Inv` is the loop invariant; `scan_spec` says that the fuel the
scan is given is enough for it to stop by its own condition, so nothing below is about a scan cut
short.

**The defect.**  The drop test looks at `data[eventsRead].sensor`, but for a `META_DATA` event the
handle that may be unknown is in the payload.  `poll_correct_iff`: what `poll` hands up is right
for every start and every buffer size **iff** no queued `META_DATA` event names an unregistered
sensor (`UnknownMeta`).
-/

namespace Hal

open List Option SensorEventQueue

/-! ## A writer's turn -/

namespace SensorEventQueue

variable {α : Type*}

/-- What the sub-HAL's `poll` leaves in the array: `batch` from slot `first` on. -/
def storeAll (q : SensorEventQueue α) (first : ℕ) (batch : List α) : SensorEventQueue α :=
  { q with
    mData := fun k => if first ≤ k then (batch[k - first]?).getD (q.mData k) else q.mData k }

lemma storeAll_mData_of_ne (q : SensorEventQueue α) {first k : ℕ} {batch : List α}
    (h : ∀ i < batch.length, first + i ≠ k) : (q.storeAll first batch).mData k = q.mData k := by
  simp only [storeAll]
  split_ifs with hle
  · rw [getElem?_eq_none, getD_none]
    by_contra hlt
    exact h (k - first) (by omega) (by omega)
  · rfl

/-- One round of `writerTask` in which `poll` returns `batch`: take a region, let it be filled, mark it.
`none`: there is no space (the thread is in `waitForSpace`), or less than the batch takes. -/
def writerTask (q : SensorEventQueue α) (batch : List α) : Option (SensorEventQueue α) :=
  match q.getWritableRegion sensorEventQueueCapacity with
  | ⟨none, _⟩ => none
  | ⟨some first, bufferSize⟩ =>
    if batch.length ≤ bufferSize then
      some ((q.storeAll first.toNat batch).markAsWritten batch.length)
    else none

lemma writerTask_spec {q q' : SensorEventQueue α} {batch : List α} (h : q.WellFormed)
    (hw : q.writerTask batch = some q') : q'.WellFormed ∧ q'.contents = q.contents ++ batch := by
  have hfits : q.Fits sensorEventQueueCapacity := h.fits (by decide)
  have hok := (getWritableRegion_spec h.toInRange hfits).1
  unfold writerTask at hw
  split at hw
  · cases hw
  · next first bufferSize hregion =>
    rw [hregion] at hok
    split_ifs at hw with hlen
    cases hw
    have hok' : (q.storeAll first.toNat batch).RegionOk ⟨some first, bufferSize⟩ := hok
    have hroom : q.mSize + bufferSize ≤ q.mCapacity := hok.2.2
    have hfirst : 0 ≤ first := by
      rw [hok.1]
      exact Int.natCast_nonneg _
    refine ⟨⟨⟨h.start_lt, ?_⟩, h.capacity_le⟩, ?_⟩
    · show q.mSize + batch.length ≤ q.mCapacity
      omega
    rw [QueueSys.contents_markAsWritten hok' hlen]
    congr 1
    -- the readable slots are outside the region, the marked ones hold the batch
    · refine map_congr_left fun j hj => ?_
      have hj : j < q.mSize := mem_range.mp hj
      have hout : ∀ i < batch.length, first.toNat + i ≠ (q.mStart + j) % q.mCapacity := fun i hi heq =>
        hok.not_readable (lt_of_lt_of_le (Int.ofNat_lt.mpr hi) hlen) ⟨j, hj, by omega⟩
      exact storeAll_mData_of_ne q fun i hi => hout i hi
    · refine ext_getElem (by simp [QueueSys.regionEvents]) fun i hi hi' => ?_
      have hslot : (first + i).toNat = first.toNat + i := by omega
      simp [QueueSys.regionEvents, storeAll, hslot, getElem?_eq_getElem hi']

end SensorEventQueue

/-! ## The loop -/

lemma sum_map_set {β : Type*} (f : β → ℕ) {l : List β} {k : ℕ} {b : β} (hget : l[k]? = some b)
    (b' : β) : ((l.set k b').map f).sum + f b = (l.map f).sum + f b' := by
  induction l generalizing k with
  | nil => simp at hget
  | cons c l ih =>
    cases k with
    | zero =>
      obtain rfl : c = b := by simpa using hget
      simp only [set_cons_zero, map_cons, sum_cons]
      omega
    | succ k =>
      have := ih (k := k) (by simpa using hget)
      simp only [set_cons_succ, map_cons, sum_cons]
      omega

/-- The state of `poll`: the queues, `nextReadIndex`, `empties`, and `data[0 .. eventsRead)`.
`taken` and `arrived` are ghosts: the events dequeued and the events marked by writers during the
waits, each with the position of its queue. -/
structure PollState where
  queues : List (SensorEventQueue SensorsEvent)
  nextReadIndex : ℕ
  empties : ℕ
  data : List SensorsEvent
  taken : List (ℕ × SensorsEvent)
  arrived : List (ℕ × SensorsEvent)

namespace PollState

/-- On entry: nothing read, no queue found empty. -/
def enter (queues : List (SensorEventQueue SensorsEvent)) (nextReadIndex : ℕ) : PollState :=
  ⟨queues, nextReadIndex, 0, [], [], []⟩

def eventsRead (s : PollState) : ℕ := s.data.length

/-- The body of the inner loop.  The `none` case of the lookup is the exception of `at`. -/
def body (m : HandleMaps) (s : PollState) : PollState :=
  match s.queues[s.nextReadIndex]? with
  | none => s
  | some queue =>
    let next := (s.nextReadIndex + 1) % s.queues.length
    match queue.peek with
    | none => { s with empties := s.empties + 1, nextReadIndex := next }
    | some event =>
      let copy := copyEventRemapHandle m event s.nextReadIndex
      { s with
        queues := s.queues.set s.nextReadIndex queue.dequeue
        nextReadIndex := next
        empties := 0
        -- Bad handle, do not pass corrupted event upstream !
        data := if copy.sensor = -1 then s.data else s.data ++ [copy]
        taken := s.taken ++ [(s.nextReadIndex, event)] }

def Continues (maxReads : ℕ) (s : PollState) : Prop :=
  s.empties < s.queues.length ∧ s.eventsRead < maxReads

instance (maxReads : ℕ) (s : PollState) : Decidable (s.Continues maxReads) :=
  inferInstanceAs (Decidable (_ ∧ _))

def scan (m : HandleMaps) (maxReads : ℕ) : ℕ → PollState → PollState
  | 0, s => s
  | fuel + 1, s => if s.Continues maxReads then scan m maxReads fuel (s.body m) else s

lemma body_arrived (m : HandleMaps) (s : PollState) : (s.body m).arrived = s.arrived := by
  unfold body
  split
  · rfl
  · split <;> rfl

lemma scan_arrived (m : HandleMaps) (maxReads fuel : ℕ) (s : PollState) :
    (s.scan m maxReads fuel).arrived = s.arrived := by
  induction fuel generalizing s with
  | zero => rfl
  | succ fuel ih =>
    rw [scan]
    split_ifs
    · rw [ih, body_arrived]
    · rfl

/-- How often the body can still run: a dequeue costs one event and allows a whole round of
empty queues, an empty queue costs one of that round. -/
def work (s : PollState) : ℕ :=
  (s.queues.map SensorEventQueue.getSize).sum * (s.queues.length + 1)
    + (s.queues.length - s.empties)

/-- The writers' rounds during one `pthread_cond_wait`: queue position and batch, in order. -/
abbrev Wait := List (ℕ × List SensorsEvent)

/-- The queues after the writers' rounds. -/
def writers (s : PollState) : Wait → Option PollState
  | [] => some s
  | (i, batch) :: rest =>
    (s.queues[i]?.bind fun q => q.writerTask batch).bind fun q =>
      writers { s with
        queues := s.queues.set i q
        arrived := s.arrived ++ batch.map fun e => (i, e) } rest

/-- `pthread_cond_wait`, after which the round starts over. -/
def await (s : PollState) (w : Wait) : Option PollState :=
  (s.writers w).map fun s => { s with empties := 0 }

/-- `poll`, with what happens in its successive waits.  `none`: still waiting, or a wait that the
writers cannot have produced. -/
def poll (m : HandleMaps) (maxReads : ℕ) : List Wait → PollState → Option PollState
  | waits, s =>
    let s := s.scan m maxReads s.work
    if s.eventsRead = 0 then
      match waits with
      | [] => none
      | w :: waits => (s.await w).bind fun s => poll m maxReads waits s
    else some s

/-! ## The invariant -/

/-- The part of a history that belongs to queue `i`. -/
def fromQueue (i : ℕ) (history : List (ℕ × SensorsEvent)) : List SensorsEvent :=
  history.filterMap fun p => if p.1 = i then some p.2 else none

@[simp] lemma fromQueue_append (i : ℕ) (h h' : List (ℕ × SensorsEvent)) :
    fromQueue i (h ++ h') = fromQueue i h ++ fromQueue i h' := by
  simp [fromQueue]

lemma fromQueue_map (i j : ℕ) (batch : List SensorsEvent) :
    fromQueue i (batch.map fun e => (j, e)) = if j = i then batch else [] := by
  simp only [fromQueue, filterMap_map]
  split_ifs with hij
  · simp [hij]
  · simp [hij]

variable {e : SensorsEvent} {queues queues₀ : List (SensorEventQueue SensorsEvent)} {m : HandleMaps} {s : PollState}
  {maxReads : ℕ}

variable {i : ℕ}

lemma mem_fromQueue {history : List (ℕ × SensorsEvent)} : e ∈ fromQueue i history ↔ (i, e) ∈ history := by
  simp only [fromQueue, mem_filterMap, ite_none_right_eq_some, Option.some.injEq, Prod.exists]
  constructor
  · rintro ⟨j, e', hmem, rfl, rfl⟩; exact hmem
  · intro hmem; exact ⟨i, e, hmem, rfl, rfl⟩

/-- What is handed up for a dequeued event. -/
def delivery (m : HandleMaps) (p : ℕ × SensorsEvent) : Option SensorsEvent :=
  let copy := copyEventRemapHandle m p.2 p.1
  if copy.sensor = -1 then none else some copy

/-- The loop invariant, relative to the queues `poll` was entered with. -/
structure Inv (m : HandleMaps) (maxReads : ℕ) (queues₀ : List (SensorEventQueue SensorsEvent))
    (s : PollState) : Prop where
  length_eq : s.queues.length = queues₀.length
  wf : ∀ q ∈ s.queues, q.WellFormed
  next_lt : s.nextReadIndex < s.queues.length
  /-- what was taken from a queue and what is left in it are what it held and what arrived -/
  stream : ∀ (i : ℕ) q₀ q, queues₀[i]? = some q₀ → s.queues[i]? = some q →
    fromQueue i s.taken ++ q.contents = q₀.contents ++ fromQueue i s.arrived
  taken_lt : ∀ p ∈ s.taken, p.1 < s.queues.length
  data_eq : s.data = s.taken.filterMap (delivery m)
  data_le : s.eventsRead ≤ maxReads
  /-- the last `empties` queues looked at are empty -/
  emptyRun : ∃ base, s.nextReadIndex = (base + s.empties) % s.queues.length ∧
    ∀ j < s.empties, ∀ q, s.queues[(base + j) % s.queues.length]? = some q → q.contents = []

lemma enter_inv (m : HandleMaps) (maxReads : ℕ)
    (hwf : ∀ q ∈ queues, q.WellFormed) {start : ℕ} (hstart : start < queues.length) :
    Inv m maxReads queues (enter queues start) where
  length_eq := rfl
  wf := hwf
  next_lt := hstart
  stream := by
    rintro i q₀ q hq₀ hq
    obtain rfl : q₀ = q := Option.some.inj (hq₀.symm.trans hq)
    simp [enter, fromQueue]
  taken_lt := by simp [enter]
  data_eq := rfl
  data_le := Nat.zero_le _
  emptyRun := ⟨start, by simp [enter, Nat.mod_eq_of_lt hstart], by simp [enter]⟩

/-- The two things the body does: it passes over an empty queue, or it takes the oldest event of
one that is not. -/
lemma body_cases (hnext : s.nextReadIndex < s.queues.length) (hwf : ∀ q ∈ s.queues, q.WellFormed) :
    ∃ queue, s.queues[s.nextReadIndex]? = some queue ∧
      ((queue.contents = []
          ∧ s.body m = { s with
              empties := s.empties + 1
              nextReadIndex := (s.nextReadIndex + 1) % s.queues.length })
        ∨ ∃ event, queue.contents = event :: queue.dequeue.contents
          ∧ s.body m = { s with
              queues := s.queues.set s.nextReadIndex queue.dequeue
              nextReadIndex := (s.nextReadIndex + 1) % s.queues.length
              empties := 0
              data := s.data ++ (delivery m (s.nextReadIndex, event)).toList
              taken := s.taken ++ [(s.nextReadIndex, event)] }) := by
  have hget : s.queues[s.nextReadIndex]? = some s.queues[s.nextReadIndex] :=
    getElem?_eq_getElem hnext
  generalize s.queues[s.nextReadIndex] = queue at hget
  have hq : queue.WellFormed := hwf queue (mem_of_getElem? hget)
  have hpeek := peek_eq_head? hq.toInRange
  refine ⟨queue, hget, ?_⟩
  cases hc : queue.contents with
  | nil =>
    rw [hc, head?_nil] at hpeek
    exact .inl ⟨rfl, by simp only [body, hget, hpeek]⟩
  | cons event rest =>
    rw [hc, head?_cons] at hpeek
    refine .inr ⟨event, ?_, ?_⟩
    · rw [contents_dequeue hq.toInRange, hc, tail_cons]
    · simp only [body, hget, hpeek, delivery]
      split_ifs <;> simp

lemma stream_set {k : ℕ} {queue queue' : SensorEventQueue SensorsEvent}
    {taken taken' arrived arrived' : List (ℕ × SensorsEvent)} (hget : queues[k]? = some queue)
    (hstream : ∀ (i : ℕ) q₀ q, queues₀[i]? = some q₀ → queues[i]? = some q →
      fromQueue i taken ++ q.contents = q₀.contents ++ fromQueue i arrived)
    (hk : ∀ c, fromQueue k taken ++ queue.contents = c ++ fromQueue k arrived →
      fromQueue k taken' ++ queue'.contents = c ++ fromQueue k arrived') (hne : ∀ i, k ≠ i →
      fromQueue i taken' = fromQueue i taken ∧ fromQueue i arrived' = fromQueue i arrived) :
    ∀ (i : ℕ) q₀ q, queues₀[i]? = some q₀ → (queues.set k queue')[i]? = some q →
      fromQueue i taken' ++ q.contents = q₀.contents ++ fromQueue i arrived' := by
  intro i q₀ q hq₀ hq
  by_cases hik : k = i
  · subst hik
    have hlt : k < queues.length := (List.getElem?_eq_some_iff.mp hget).1
    rw [getElem?_set_self hlt] at hq
    cases hq
    exact hk _ (hstream k q₀ queue hq₀ hget)
  · rw [getElem?_set_ne hik] at hq
    rw [(hne i hik).1, (hne i hik).2]
    exact hstream i q₀ q hq₀ hq

lemma length_delivery_le (m : HandleMaps) (p : ℕ × SensorsEvent) : (delivery m p).toList.length ≤ 1 := by
  cases delivery m p <;> simp

/-- **One round of the inner loop.** -/
lemma Inv.body (h : Inv m maxReads queues₀ s) (hc : s.Continues maxReads) : Inv m maxReads queues₀ (s.body m) := by
  obtain ⟨base, hbase, hempty⟩ := h.emptyRun
  have hpos : 0 < s.queues.length := lt_of_le_of_lt (Nat.zero_le _) h.next_lt
  have hnext' : (s.nextReadIndex + 1) % s.queues.length < s.queues.length := Nat.mod_lt _ hpos
  obtain ⟨queue, hget, ⟨hnil, hbody⟩ | ⟨event, hcons, hbody⟩⟩ := body_cases (m := m) h.next_lt h.wf
  · rw [hbody]
    refine ⟨h.length_eq, h.wf, hnext', h.stream, h.taken_lt, h.data_eq, h.data_le, base, ?_, ?_⟩
    · rw [hbase, Nat.mod_add_mod, Nat.add_assoc]
    · intro j hj q hq
      -- the queue just looked at, or one of the earlier ones
      rcases Nat.lt_succ_iff_lt_or_eq.mp hj with hlt | rfl
      · exact hempty j hlt q hq
      · rw [← hbase] at hq
        cases hget.symm.trans hq
        exact hnil
  · have hwf : ∀ q ∈ s.queues.set s.nextReadIndex queue.dequeue, q.WellFormed := by
      intro q hq
      rcases mem_or_eq_of_mem_set hq with hq | rfl
      · exact h.wf q hq
      · exact dequeue_wellFormed (h.wf queue (mem_of_getElem? hget))
    rw [hbody]
    refine ⟨by simp [h.length_eq], hwf, by simpa using hnext', ?_, ?_, ?_, ?_, ?_⟩
    · refine stream_set hget h.stream (fun c hs => ?_) fun i hi => ⟨?_, rfl⟩
      · rw [← hs, hcons]
        simp [fromQueue]
      · simp [fromQueue, hi]
    · intro p hp
      rcases mem_append.mp hp with hp | hp
      · simpa using h.taken_lt p hp
      · obtain rfl := mem_singleton.mp hp
        simpa using h.next_lt
    · rw [h.data_eq, filterMap_append]
      rfl
    · show (s.data ++ _).length ≤ maxReads
      have hlt : s.data.length < maxReads := hc.2
      have := length_delivery_le m (s.nextReadIndex, event)
      rw [length_append]
      omega
    · refine ⟨(s.nextReadIndex + 1) % s.queues.length, ?_, by simp⟩
      simp [Nat.mod_eq_of_lt hnext']

/-! ## The scan stops by itself -/

lemma work_body_lt (hnext : s.nextReadIndex < s.queues.length) (hwf : ∀ q ∈ s.queues, q.WellFormed)
    (hc : s.Continues maxReads) : (s.body m).work < s.work := by
  have hempties : s.empties < s.queues.length := hc.1
  obtain ⟨queue, hget, ⟨_, hbody⟩ | ⟨event, hcons, hbody⟩⟩ := body_cases (m := m) hnext hwf
  · rw [hbody]
    simp only [work]
    omega
  · have hsize : queue.getSize = queue.dequeue.getSize + 1 := by
      simpa [SensorEventQueue.getSize] using congrArg List.length hcons
    have hsum := sum_map_set SensorEventQueue.getSize hget queue.dequeue
    rw [hbody]
    simp only [work, length_set]
    have htotal : (s.queues.map SensorEventQueue.getSize).sum
        = ((s.queues.set s.nextReadIndex queue.dequeue).map SensorEventQueue.getSize).sum + 1 := by
      omega
    rw [htotal, Nat.add_mul]
    omega

variable {s : PollState}

/-- **The inner loop runs to its end**: with fuel for its work it keeps the invariant and stops
because its condition fails. -/
lemma scan_spec {fuel : ℕ} (h : Inv m maxReads queues₀ s) (hfuel : s.work ≤ fuel) :
    Inv m maxReads queues₀ (s.scan m maxReads fuel) ∧ ¬ (s.scan m maxReads fuel).Continues maxReads := by
  induction fuel generalizing s with
  | zero =>
    refine ⟨h, fun hc => ?_⟩
    have hempties : s.empties < s.queues.length := hc.1
    simp only [work] at hfuel
    omega
  | succ fuel ih =>
    rw [scan]
    split_ifs with hc
    · have hlt := work_body_lt (m := m) h.next_lt h.wf hc
      exact ih (h.body hc) (by omega)
    · exact ⟨h, hc⟩

lemma Inv.contents_eq_nil (h : Inv m maxReads queues₀ s) (hstop : s.queues.length ≤ s.empties)
    {q : SensorEventQueue SensorsEvent} (hq : s.queues[i]? = some q) : q.contents = [] := by
  obtain ⟨base, _, hempty⟩ := h.emptyRun
  obtain ⟨hi, _⟩ := List.getElem?_eq_some_iff.mp hq
  obtain ⟨j, hj, hji⟩ := exists_ringIndex_eq base hi
  exact hempty j (by omega) q (by rw [hji]; exact hq)

/-! ## Waiting, and the whole call -/

/-- The events a wait brings, with the positions of their queues. -/
def Wait.events (w : Wait) : List (ℕ × SensorsEvent) :=
  w.flatMap fun p => p.2.map fun e => (p.1, e)

lemma Inv.reset (h : Inv m maxReads queues₀ s) : Inv m maxReads queues₀ { s with empties := 0 } :=
  ⟨h.length_eq, h.wf, h.next_lt, h.stream, h.taken_lt, h.data_eq, h.data_le, s.nextReadIndex,
    by simp [Nat.mod_eq_of_lt h.next_lt], by simp⟩

lemma writers_spec {w : Wait} {s' : PollState} (h : Inv m maxReads queues₀ { s with empties := 0 })
    (hs' : s.writers w = some s') :
    Inv m maxReads queues₀ { s' with empties := 0 } ∧ s'.arrived = s.arrived ++ w.events := by
  induction w generalizing s with
  | nil =>
    cases hs'
    exact ⟨h, by simp [Wait.events]⟩
  | cons p w ih =>
    simp only [writers, bind_eq_some_iff] at hs'
    obtain ⟨queue', ⟨queue, hget, hwrite⟩, hs'⟩ := hs'
    obtain ⟨hwf', hcontents⟩ :=
      writerTask_spec (h.wf queue (mem_of_getElem? hget)) hwrite
    have hnext : s.nextReadIndex < s.queues.length := h.next_lt
    refine (ih ?_ hs').imp_right fun harr => ?_
    · refine ⟨by simpa using h.length_eq, ?_, by simpa using hnext, ?_, by simpa using h.taken_lt,
        h.data_eq, h.data_le, s.nextReadIndex, by simp [Nat.mod_eq_of_lt hnext], by simp⟩
      · intro q hq
        rcases mem_or_eq_of_mem_set hq with hq | rfl
        · exact h.wf q hq
        · exact hwf'
      · refine stream_set hget h.stream (fun c hs => ?_) fun i hi => ⟨rfl, ?_⟩
        · rw [hcontents, fromQueue_append, fromQueue_map, if_pos rfl, ← append_assoc, hs, append_assoc]
        · rw [fromQueue_append, fromQueue_map, if_neg hi, append_nil]
    · rw [harr]
      simp [Wait.events]

lemma poll_inv {waits : List Wait} {s' : PollState} (h : Inv m maxReads queues₀ s)
    (hs' : poll m maxReads waits s = some s') :
    Inv m maxReads queues₀ s' ∧ ∀ p ∈ s'.arrived, p ∈ s.arrived ∨ ∃ w ∈ waits, p ∈ w.events := by
  induction waits generalizing s with
  | nil =>
    obtain ⟨hinv, _⟩ := scan_spec h (le_refl s.work)
    rw [poll] at hs'
    split_ifs at hs'
    cases hs'
    refine ⟨hinv, fun p hp => .inl ?_⟩
    rwa [scan_arrived] at hp
  | cons w waits ih =>
    obtain ⟨hinv, _⟩ := scan_spec h (le_refl s.work)
    rw [poll] at hs'
    split_ifs at hs' with hzero
    · obtain ⟨t, ht, hs'⟩ := bind_eq_some_iff.mp hs'
      obtain ⟨u, hu, rfl⟩ := map_eq_some_iff.mp ht
      obtain ⟨hinvu, harr⟩ := writers_spec hinv.reset hu
      obtain ⟨hinv', hmem⟩ := ih hinvu hs'
      refine ⟨hinv', fun p hp => ?_⟩
      rcases hmem p hp with hp | ⟨w', hw', hp⟩
      · rw [harr, scan_arrived, mem_append] at hp
        exact hp.imp_right fun hp => ⟨w, mem_cons_self, hp⟩
      · exact .inr ⟨w', mem_cons_of_mem w hw', hp⟩
    · cases hs'
      refine ⟨hinv, fun p hp => .inl ?_⟩
      rwa [scan_arrived] at hp

/-! ## What `poll` hands up -/

/-- The event is `META_DATA`, passes the drop test, and refers to a sensor that queue `i`'s module
did not register. -/
def UnknownMeta (m : HandleMaps) (i : ℕ) (e : SensorsEvent) : Prop :=
  e.IsMetaData ∧ e.sensor ≠ -1 ∧ m.fullToGlobal ⟨i, e.metaSensor⟩ = none

instance (m : HandleMaps) (i : ℕ) (e : SensorsEvent) : Decidable (UnknownMeta m i e) :=
  inferInstanceAs (Decidable (_ ∧ _ ∧ _))

/-- What the caller of `poll` may rely on. -/
structure Correct (m : HandleMaps) (maxReads : ℕ)
    (queues₀ : List (SensorEventQueue SensorsEvent)) (s : PollState) : Prop where
  /-- at most `maxReads` events -/
  le_maxReads : s.eventsRead ≤ maxReads
  /-- from each queue a prefix of its stream, in order -/
  isPrefix : ∀ (i : ℕ) q₀, queues₀[i]? = some q₀ → ∃ q, s.queues[i]? = some q ∧
    fromQueue i s.taken ++ q.contents = q₀.contents ++ fromQueue i s.arrived
  /-- every event taken is dropped or handed up once, with only the handle replaced, and by the
  global handle of its own sensor -/
  delivered : ∃ kept : List (ℕ × SensorsEvent), kept.Sublist s.taken
    ∧ s.data = kept.map (fun p => p.2.withHandle (m.getGlobalHandle ⟨p.1, p.2.handle⟩))
    ∧ ∀ p ∈ kept, ∃ g, m.fullToGlobal ⟨p.1, p.2.handle⟩ = some g
  /-- no event handed up refers to an unregistered handle -/
  registered : ∀ e ∈ s.data, m.IsRegistered e.handle

lemma filterMap_delivery (m : HandleMaps) (taken : List (ℕ × SensorsEvent)) :
    ∃ kept : List (ℕ × SensorsEvent), kept.Sublist taken
      ∧ taken.filterMap (delivery m)
        = kept.map (fun p => p.2.withHandle (m.getGlobalHandle ⟨p.1, p.2.handle⟩))
      ∧ ∀ p ∈ kept, (copyEventRemapHandle m p.2 p.1).sensor ≠ -1 := by
  induction taken with
  | nil => exact ⟨[], List.Sublist.refl _, rfl, by simp⟩
  | cons p taken ih =>
    obtain ⟨kept, hsub, hmap, hsensor⟩ := ih
    by_cases hbad : (copyEventRemapHandle m p.2 p.1).sensor = -1
    · refine ⟨kept, hsub.cons p, ?_, hsensor⟩
      rw [filterMap_cons_none (by simp [delivery, hbad]), hmap]
    · refine ⟨p :: kept, hsub.cons_cons p, ?_, forall_mem_cons.mpr ⟨hbad, hsensor⟩⟩
      have hsome : delivery m p = some (copyEventRemapHandle m p.2 p.1) := by
        simp [delivery, hbad]
      rw [filterMap_cons_some hsome, hmap, copyEventRemapHandle_eq, map_cons]

/-- The drop test catches every event that refers to an unknown sensor, `UnknownMeta` apart. -/
lemma fullToGlobal_of_sensor_ne (hsensor : (copyEventRemapHandle m e i).sensor ≠ -1) (hmeta : ¬ UnknownMeta m i e) :
    ∃ g, m.fullToGlobal ⟨i, e.handle⟩ = some g := by
  refine ne_none_iff_exists'.mp fun hnone => ?_
  by_cases hm : e.IsMetaData
  · rw [SensorsEvent.handle, if_pos hm] at hnone
    rw [copyEventRemapHandle_eq, SensorsEvent.withHandle, if_pos hm] at hsensor
    exact hmeta ⟨hm, hsensor, hnone⟩
  · rw [copyEventRemapHandle_eq, SensorsEvent.withHandle, if_neg hm] at hsensor
    exact hsensor ((m.getGlobalHandle_eq_neg_one_iff _).mpr hnone)

lemma Inv.mem_of_taken (h : Inv m maxReads queues₀ s) (hmem : (i, e) ∈ s.taken) :
    (∃ q₀, queues₀[i]? = some q₀ ∧ e ∈ q₀.contents) ∨ (i, e) ∈ s.arrived := by
  have hi : i < s.queues.length := h.taken_lt _ hmem
  have hi₀ : i < queues₀.length := h.length_eq ▸ hi
  have hstream := h.stream i _ _ (getElem?_eq_getElem hi₀) (getElem?_eq_getElem hi)
  have hin : e ∈ queues₀[i].contents ++ fromQueue i s.arrived :=
    hstream ▸ mem_append_left _ (mem_fromQueue.mpr hmem)
  rcases mem_append.mp hin with hin | hin
  · exact .inl ⟨_, getElem?_eq_getElem hi₀, hin⟩
  · exact .inr (mem_fromQueue.mp hin)

/-- The invariant, once no event taken is an `UnknownMeta`, is what the caller relies on. -/
lemma Inv.correct (h : Inv m maxReads queues₀ s)
    (hknown : ∀ p ∈ s.taken, ¬ UnknownMeta m p.1 p.2) : Correct m maxReads queues₀ s := by
  obtain ⟨kept, hsub, hmap, hsensor⟩ := filterMap_delivery m s.taken
  have hfound : ∀ p ∈ kept, ∃ g, m.fullToGlobal ⟨p.1, p.2.handle⟩ = some g := fun p hp =>
    fullToGlobal_of_sensor_ne (hsensor p hp) (hknown p (hsub.subset hp))
  refine ⟨h.data_le, fun i q₀ hq₀ => ?_, ⟨kept, hsub, h.data_eq.trans hmap, hfound⟩, ?_⟩
  · have hi : i < s.queues.length := h.length_eq ▸ (List.getElem?_eq_some_iff.mp hq₀).1
    exact ⟨s.queues[i], getElem?_eq_getElem hi,
      h.stream i q₀ _ hq₀ (getElem?_eq_getElem hi)⟩
  · rw [h.data_eq, hmap]
    intro e he
    obtain ⟨p, hp, rfl⟩ := mem_map.mp he
    obtain ⟨g, hg⟩ := hfound p hp
    rcases m.getGlobalHandle_cases ⟨p.1, p.2.handle⟩ with ⟨g', _, heq, _, hreg⟩ | ⟨hnone, _⟩
    · rw [SensorsEvent.handle_withHandle, heq]
      exact hreg
    · rw [hg] at hnone
      simp at hnone

lemma delivery_unknownMeta (h : UnknownMeta m i e) : ∃ copy, delivery m (i, e) = some copy ∧ copy.handle = -1 := by
  obtain ⟨hm, hsensor, hnone⟩ := h
  refine ⟨copyEventRemapHandle m e i, ?_, ?_⟩
  · have hcopy : (copyEventRemapHandle m e i).sensor = e.sensor := by
      rw [copyEventRemapHandle_eq, SensorsEvent.withHandle, if_pos hm]
    simp [delivery, hcopy, hsensor]
  · rw [copyEventRemapHandle_eq, SensorsEvent.handle_withHandle, SensorsEvent.handle, if_pos hm]
    exact (m.getGlobalHandle_eq_neg_one_iff _).mpr hnone

lemma eventsRead_body_le (m : HandleMaps) (s : PollState) : (s.body m).eventsRead ≤ s.eventsRead + 1 := by
  unfold body eventsRead
  split
  · omega
  · split
    · exact Nat.le_succ _
    · dsimp only
      split_ifs <;> simp

lemma eventsRead_scan_le (m : HandleMaps) (maxReads fuel : ℕ) (s : PollState) :
    (s.scan m maxReads fuel).eventsRead ≤ s.eventsRead + fuel := by
  induction fuel generalizing s with
  | zero => exact le_refl _
  | succ fuel ih =>
    rw [scan]
    split_ifs
    · have hscan := ih (s.body m)
      have hbody := eventsRead_body_le m s
      omega
    · omega

/-- With a buffer larger than the scan can fill, everything queued is taken. -/
lemma mem_taken_of_mem_contents (hwf : ∀ q ∈ queues, q.WellFormed) {start : ℕ} (hstart : start < queues.length)
    {q : SensorEventQueue SensorsEvent} (hq : queues[i]? = some q) (he : e ∈ q.contents) :
    (i, e) ∈ ((enter queues start).scan m ((enter queues start).work + 1)
      (enter queues start).work).taken := by
  have hread := eventsRead_scan_le m ((enter queues start).work + 1) (enter queues start).work
    (enter queues start)
  obtain ⟨hinv, hstop⟩ := scan_spec
    (enter_inv m ((enter queues start).work + 1) hwf hstart) (le_refl (enter queues start).work)
  generalize (enter queues start).scan m _ _ = s at *
  have hfull : s.queues.length ≤ s.empties := by
    by_contra hlt
    exact hstop ⟨by omega, by simp only [enter, eventsRead, length_nil] at hread ⊢; omega⟩
  have hi : i < s.queues.length := hinv.length_eq ▸ (List.getElem?_eq_some_iff.mp hq).1
  have hget : s.queues[i]? = some s.queues[i] := getElem?_eq_getElem hi
  have hstream := hinv.stream i q _ hq hget
  rw [hinv.contents_eq_nil hfull hget, append_nil] at hstream
  exact mem_fromQueue.mp (hstream ▸ mem_append_left _ he)

/-- **What `poll` hands up is right iff no queued `META_DATA` event names an unregistered sensor.**
For every content of the queues: `Correct` holds of every call that returns — from any
`nextReadIndex`, for any buffer size, whatever the writers add in its waits as long as it is not
itself an `UnknownMeta` — exactly when no `UnknownMeta` is queued. -/
theorem poll_correct_iff (m : HandleMaps) (queues : List (SensorEventQueue SensorsEvent))
    (hwf : ∀ q ∈ queues, q.WellFormed) :
    (∀ start < queues.length, ∀ maxReads, 1 ≤ maxReads → ∀ (waits : List Wait) (s : PollState),
        (∀ w ∈ waits, ∀ p ∈ w.events, ¬ UnknownMeta m p.1 p.2) →
        poll m maxReads waits (enter queues start) = some s → Correct m maxReads queues s)
      ↔ ∀ (i : ℕ) q, queues[i]? = some q → ∀ e ∈ q.contents, ¬ UnknownMeta m i e := by
  constructor
  · intro hcorrect i q hq e he hmeta
    have hstart : 0 < queues.length :=
      lt_of_le_of_lt (Nat.zero_le _) (List.getElem?_eq_some_iff.mp hq).1
    have htaken := mem_taken_of_mem_contents (m := m) hwf hstart hq he
    have hinv := (scan_spec (enter_inv m ((enter queues 0).work + 1) hwf hstart)
      (le_refl (enter queues 0).work)).1
    obtain ⟨copy, hcopy, hhandle⟩ := delivery_unknownMeta hmeta
    have hdata := hinv.data_eq ▸ mem_filterMap.mpr ⟨_, htaken, hcopy⟩
    have hread : ((enter queues 0).scan m ((enter queues 0).work + 1)
        (enter queues 0).work).eventsRead ≠ 0 := fun hzero =>
      ne_nil_of_mem hdata (length_eq_zero_iff.mp hzero)
    have hpoll := hcorrect 0 hstart ((enter queues 0).work + 1) (by omega) [] _ (by simp)
      (by rw [poll, if_neg hread])
    exact m.not_isRegistered_neg_one (hhandle ▸ hpoll.registered copy hdata)
  · intro hclean start hstart maxReads _ waits s hwaits hs
    obtain ⟨hinv, harr⟩ := poll_inv (enter_inv m maxReads hwf hstart) hs
    refine hinv.correct fun p hp => ?_
    rcases hinv.mem_of_taken hp with ⟨q₀, hq₀, he⟩ | hp
    · exact hclean p.1 q₀ hq₀ p.2 he
    · rcases harr p hp with hp | ⟨w, hw, hp⟩
      · simp [enter] at hp
      · exact hwaits w hw p hp

def queueOf (events : List SensorsEvent) : SensorEventQueue SensorsEvent :=
  ((SensorEventQueue.new sensorEventQueueCapacity fun _ => default).storeAll 0 events).markAsWritten
    events.length

/-- One module, whose sensor 7 has the global handle 1. -/
def oneSensor : HandleMaps := (HandleMaps.initial.assignGlobalHandle 0 7).2

/-- A reading of sensor 7, then a flush-complete for it, are handed up under the handle 1. -/
theorem poll_correct_flushComplete :
    ∃ s, poll oneSensor 4 []
        (enter [queueOf [{ (default : SensorsEvent) with sensor := 7, type := 1 },
          { (default : SensorsEvent) with metaSensor := 7 }]] 0) = some s
      ∧ s.data = [{ (default : SensorsEvent) with sensor := 1, type := 1 },
          { (default : SensorsEvent) with metaSensor := 1 }]
      ∧ Correct oneSensor 4 [queueOf [{ (default : SensorsEvent) with sensor := 7, type := 1 },
          { (default : SensorsEvent) with metaSensor := 7 }]] s := by
  refine ⟨_, rfl, by decide, (poll_correct_iff oneSensor _ ?_).mpr ?_ 0 (by decide) 4 (by decide) []
    _ (by simp) rfl⟩
  · simp only [mem_singleton, forall_eq]
    exact ⟨⟨by decide, by decide⟩, by decide⟩
  · rintro (_ | i) q hq e he
    · obtain rfl : queueOf _ = q := Option.some.inj hq
      revert e
      decide
    · simp at hq

/-- A flush-complete for sensor 9, which the module does not have, is handed up with the handle
-1. -/
theorem poll_delivers_neg_one :
    ∃ s, poll oneSensor 4 []
        (enter [queueOf [{ (default : SensorsEvent) with metaSensor := 9 }]] 0) = some s
      ∧ s.data.map SensorsEvent.handle = [-1] ∧ ¬ oneSensor.IsRegistered (-1) :=
  ⟨_, rfl, by decide, oneSensor.not_isRegistered_neg_one⟩

end PollState

end Hal
