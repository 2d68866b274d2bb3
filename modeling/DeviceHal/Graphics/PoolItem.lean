import DeviceHal.Core.Machine
import DeviceHal.Core.KeyedVector

/-!
# Items of a buffer pool

A `GuiExtPoolItem` has a number of buffers for each type of display, and a slot for each buffer with the token of the
client that acquired it.  Slots are found under a number that is put together from usage, type and index.

The index is not chosen by `acquire`: it is what the caller's variable holds, since the call that used to fill it in
is commented out.

**The defect.**  A slot that has a token already is left as it is, and `acquire` returns `NO_ERROR` all the same: two
clients have one buffer.  An index that was not prepared may be the number of a slot of another type.

* `PoolItem` and its operations; `PoolItem.die` — what the death of a client does.
* `ItemState` — an item with the buffers that clients acquired and nobody released since.
* **`acquired_exclusive`** — nobody is given a buffer that was not prepared or that another one has, and a death frees
  what the client had.
-/

namespace Hal

open List Option SortedVector

def guiExtUsageGpu : ℕ := 0

def guiExtUsageHwc : ℕ := 1

def guiExtUsageMax : ℕ := 2

def hwcNumDisplayTypes : ℕ := 3

def poolCombinedId (usage type idx : ℕ) : ℕ := (usage <<< 6 ||| type <<< 3 ||| idx) % 4294967296

inductive GuiStatus where
  | noError
  | badIndex
  | invalidOperation
deriving DecidableEq

/-- A buffer of an item.  An index is a `uint32_t`; the caller's `int` is taken as one. -/
structure BufferId where
  usage : ℕ
  type : ℕ
  idx : ℕ
deriving DecidableEq

/-- The number a buffer's slot is under. -/
def BufferId.key (b : BufferId) : ℕ := poolCombinedId b.usage b.type b.idx

/-- `ConsumerSlot`: the buffer and the client that has it. -/
structure ConsumerSlot where
  buffer : BufferId
  token : Option ℕ
deriving DecidableEq

def ConsumerSlot.clear (token : ℕ) (slot : ConsumerSlot) : ConsumerSlot :=
  if slot.token = some token then { slot with token := none } else slot

lemma ConsumerSlot.buffer_clear (token : ℕ) (slot : ConsumerSlot) : (slot.clear token).buffer = slot.buffer := by
  unfold clear
  split_ifs <;> rfl

lemma ConsumerSlot.clear_token {token : ℕ} {slot : ConsumerSlot} :
    (slot.clear token).token = none ↔ slot.token = none ∨ slot.token = some token := by
  unfold clear
  split_ifs with htoken
  · exact iff_of_true rfl (.inr htoken)
  · exact (or_iff_left htoken).symm

/-- `GuiExtPoolItem`.  `mHwcUsedBqList` has the number of buffers of each display type; the queue for the GPU is never
made. -/
structure PoolItem where
  mIsHwcNeeded : Bool
  mHwcUsedBqList : KeyedVector ℕ
  mConsumerList : KeyedVector ConsumerSlot
  gpuDisconnected : Bool
  hwcDisconnected : Bool
  mProducerToken : Option ℕ

namespace PoolItem

/-- A slot for a buffer, if there is none under its number. -/
def prepareSlot (slots : KeyedVector ConsumerSlot) (b : BufferId) : KeyedVector ConsumerSlot :=
  match slots.valueFor b.key with
  | none => slots.add b.key ⟨b, none⟩
  | some _ => slots

/-- The slots of the buffers of one type. -/
def prepareType (slots : KeyedVector ConsumerSlot) (usage type bufNum : ℕ) : KeyedVector ConsumerSlot :=
  (List.range bufNum).foldl (fun slots i => prepareSlot slots ⟨usage, type, i⟩) slots

def prepareBuffer (queues : KeyedVector ℕ) : KeyedVector ConsumerSlot :=
  queues.entries.foldl (fun slots e => prepareType slots guiExtUsageHwc e.1 e.2) .empty

/-- The constructor and `prepareBuffer`, for the displays there are. -/
def make (token : ℕ) (isHwcNeeded : Bool) (displays : KeyedVector ℕ) : PoolItem :=
  let queues := if isHwcNeeded then displays else .empty
  ⟨isHwcNeeded, queues, prepareBuffer queues, true, true, some token⟩

/-- `mIsDisconnected[usage] = b`.  The array has two entries; a usage from two on is written behind it. -/
def setDisconnected (item : PoolItem) (usage : ℕ) (b : Bool) : PoolItem :=
  match usage with
  | 0 => { item with gpuDisconnected := b }
  | 1 => { item with hwcDisconnected := b }
  | _ => item

/-- `getIGraphicBufferProducer` is not `NULL`. -/
def HasProducer (item : PoolItem) (usage type : ℕ) : Prop :=
  usage = guiExtUsageHwc ∧ type < hwcNumDisplayTypes ∧ (item.mHwcUsedBqList.valueFor type).isSome = true

instance (item : PoolItem) (usage type : ℕ) : Decidable (item.HasProducer usage type) :=
  inferInstanceAs (Decidable (_ ∧ _ ∧ _))

def acquire (item : PoolItem) (token : ℕ) (b : BufferId) : GuiStatus × PoolItem :=
  if item.mIsHwcNeeded = false ∧ b.usage = guiExtUsageHwc then (.invalidOperation, item)
  else if ¬ item.HasProducer b.usage b.type then (.badIndex, item)
  else
    match item.mConsumerList.valueFor b.key with
    | none => (.badIndex, item)
    | some slot =>
      let slots := if slot.token = none then item.mConsumerList.add b.key ⟨b, some token⟩ else item.mConsumerList
      (.noError, { item with mConsumerList := slots }.setDisconnected b.usage false)

def release (item : PoolItem) (b : BufferId) : GuiStatus × PoolItem :=
  if item.mIsHwcNeeded = false ∧ b.usage = guiExtUsageHwc then (.invalidOperation, item)
  else if ¬ item.HasProducer b.usage b.type then (.badIndex, item)
  else
    match item.mConsumerList.valueFor b.key with
    | none => (.noError, item)
    | some slot =>
      (.noError, { item with mConsumerList := item.mConsumerList.add b.key { slot with token := none } })

def disconnect (item : PoolItem) (usage : ℕ) : GuiStatus × PoolItem :=
  if item.mIsHwcNeeded = false ∧ usage = guiExtUsageHwc then (.invalidOperation, item)
  else (.noError, item.setDisconnected usage true)

def Holds (item : PoolItem) (token : ℕ) : Prop := ∃ e ∈ item.mConsumerList.entries, e.2.token = some token

instance (item : PoolItem) (token : ℕ) : Decidable (item.Holds token) :=
  inferInstanceAs (Decidable (∃ e ∈ item.mConsumerList.entries, e.2.token = some token))

/-- A slot has a token, and is for the usage. -/
def IsHeldFor (item : PoolItem) (usage : ℕ) : Prop :=
  ∃ e ∈ item.mConsumerList.entries, e.2.token ≠ none ∧ e.2.buffer.usage = usage

instance (item : PoolItem) (usage : ℕ) : Decidable (item.IsHeldFor usage) :=
  inferInstanceAs (Decidable (∃ e ∈ item.mConsumerList.entries, _ ∧ _))

/-- `ConsumerDeathObserver::binderDied`.  The observer is kept by the slot alone, so that it is called if a slot has the
token; `release` in its loop goes to the slot itself, which is under the number of its buffer. -/
def die (item : PoolItem) (token : ℕ) : PoolItem :=
  if item.Holds token then
    let item' := { item with mConsumerList := item.mConsumerList.mapValues (ConsumerSlot.clear token) }
    { item' with
      gpuDisconnected := decide (¬ item'.IsHeldFor guiExtUsageGpu)
      hwcDisconnected := decide (¬ item'.IsHeldFor guiExtUsageHwc) }
  else item

def Prepared (item : PoolItem) (b : BufferId) : Prop :=
  b.usage = guiExtUsageHwc ∧ ∃ n ∈ item.mHwcUsedBqList.valueFor b.type, b.idx < n

/-! ## What the operations do to the slots -/

/-- Every slot is under the number of its buffer, free, and for the display. -/
def Fresh (slots : KeyedVector ConsumerSlot) : Prop :=
  ∀ k slot, slots.valueFor k = some slot →
    k = slot.buffer.key ∧ slot.token = none ∧ slot.buffer.usage = guiExtUsageHwc

lemma Fresh.prepareSlot {slots : KeyedVector ConsumerSlot} (h : Fresh slots) {b : BufferId}
    (hb : b.usage = guiExtUsageHwc) : Fresh (prepareSlot slots b) := by
  unfold PoolItem.prepareSlot
  split
  · exact forall_add ⟨rfl, rfl, hb⟩ fun k slot _ hk => h k slot hk
  · exact h

lemma prepareBuffer_fresh (queues : KeyedVector ℕ) : Fresh (prepareBuffer queues) := by
  refine List.foldlRecOn queues.entries _ (fun k slot hk => ?_) fun slots hslots e _ => ?_
  · exact absurd hk.symm (some_ne_none _)
  · exact List.foldlRecOn (List.range e.2) _ hslots fun slots hslots i _ => hslots.prepareSlot rfl

def OnlyPrepared (item : PoolItem) (slots : KeyedVector ConsumerSlot) : Prop :=
  ∀ k slot, slots.valueFor k = some slot → item.Prepared slot.buffer

lemma prepareBuffer_onlyPrepared (item : PoolItem) : item.OnlyPrepared (prepareBuffer item.mHwcUsedBqList) := by
  refine List.foldlRecOn item.mHwcUsedBqList.entries _ (fun k slot hk => ?_) fun slots hslots e he => ?_
  · exact absurd hk.symm (some_ne_none _)
  · refine List.foldlRecOn (motive := item.OnlyPrepared) (List.range e.2) _ hslots fun slots hslots i hi => ?_
    unfold prepareSlot
    split
    · exact forall_add ⟨rfl, e.2, valueFor_eq_some.mpr he, mem_range.mp hi⟩ fun k slot _ hk => hslots k slot hk
    · exact hslots

/-- What `acquire` can do: fail and change nothing, or find a slot for the display and take it if it is free. -/
lemma acquire_cases (item : PoolItem) (token : ℕ) (b : BufferId) :
    ((item.acquire token b).1 ≠ .noError ∧ (item.acquire token b).2 = item)
      ∨ ∃ slot, item.mConsumerList.valueFor b.key = some slot ∧ item.HasProducer b.usage b.type
        ∧ item.mIsHwcNeeded = true
        ∧ item.acquire token b = (.noError,
          { item with
            mConsumerList :=
              if slot.token = none then item.mConsumerList.add b.key ⟨b, some token⟩ else item.mConsumerList
            hwcDisconnected := false }) := by
  unfold acquire
  split_ifs with hneeded hproducer
  · exact .inl ⟨by simp, rfl⟩
  · cases hslot : item.mConsumerList.valueFor b.key with
    | none => exact .inl ⟨by simp, rfl⟩
    | some slot =>
      have husage : b.usage = 1 := hproducer.1
      have hneeded' : item.mIsHwcNeeded = true := by
        rw [← Bool.not_eq_false]
        exact fun h => hneeded ⟨h, husage⟩
      exact .inr ⟨slot, rfl, hproducer, hneeded', by simp only [setDisconnected, husage]⟩
  · exact .inl ⟨by simp, rfl⟩

/-- What `release` can do: fail and change nothing, find no slot, or clear one. -/
lemma release_cases (item : PoolItem) (b : BufferId) :
    ((item.release b).1 ≠ .noError ∧ (item.release b).2 = item)
      ∨ (item.mConsumerList.valueFor b.key = none ∧ item.release b = (.noError, item))
      ∨ ∃ slot, item.mConsumerList.valueFor b.key = some slot ∧ item.HasProducer b.usage b.type
        ∧ item.release b
          = (.noError, { item with mConsumerList := item.mConsumerList.add b.key { slot with token := none } }) := by
  unfold release
  split_ifs with hneeded hproducer
  · exact .inl ⟨by simp, rfl⟩
  · cases hslot : item.mConsumerList.valueFor b.key with
    | none => exact .inr (.inl ⟨rfl, rfl⟩)
    | some slot => exact .inr (.inr ⟨slot, rfl, hproducer, rfl⟩)
  · exact .inl ⟨by simp, rfl⟩

lemma die_valueFor (item : PoolItem) (token k : ℕ) :
    (item.die token).mConsumerList.valueFor k
      = (item.mConsumerList.valueFor k).map (ConsumerSlot.clear token) := by
  unfold die
  split_ifs with hholds
  · exact valueFor_mapValues _ _ k
  · cases hslot : item.mConsumerList.valueFor k with
    | none => rfl
    | some slot =>
      have hne : slot.token ≠ some token := fun htoken =>
        hholds ⟨(k, slot), valueFor_eq_some.mp hslot, htoken⟩
      simp [ConsumerSlot.clear, hne]

lemma die_flags {item : PoolItem} {token : ℕ} (h : item.Holds token) :
    (item.die token).gpuDisconnected = decide (¬ (item.die token).IsHeldFor guiExtUsageGpu)
      ∧ (item.die token).hwcDisconnected = decide (¬ (item.die token).IsHeldFor guiExtUsageHwc) := by
  simp only [die, h, if_true]
  exact ⟨rfl, rfl⟩

lemma die_mIsHwcNeeded (item : PoolItem) (token : ℕ) : (item.die token).mIsHwcNeeded = item.mIsHwcNeeded := by
  unfold die
  split_ifs <;> rfl

lemma die_mHwcUsedBqList (item : PoolItem) (token : ℕ) : (item.die token).mHwcUsedBqList = item.mHwcUsedBqList := by
  unfold die
  split_ifs <;> rfl

lemma die_of_not_holds {item : PoolItem} {token : ℕ} (h : ¬ item.Holds token) : item.die token = item := if_neg h

end PoolItem

/-! ## Who has which buffer -/

structure Holding where
  token : ℕ
  buffer : BufferId
deriving DecidableEq

/-- An item.  `held` is a ghost: what clients acquired with `NO_ERROR` and nobody released since. -/
structure ItemState where
  item : PoolItem
  held : List Holding

inductive ItemAct where
  | acquire (token : ℕ) (b : BufferId)
  | release (b : BufferId)
  | died (token : ℕ)

namespace ItemState

def apply (s : ItemState) : ItemAct → ItemState
  | .acquire token b =>
    ⟨(s.item.acquire token b).2,
      if (s.item.acquire token b).1 = .noError then ⟨token, b⟩ :: s.held else s.held⟩
  | .release b =>
    ⟨(s.item.release b).2,
      if (s.item.release b).1 = .noError then s.held.filter fun h => h.buffer ≠ b else s.held⟩
  | .died token => ⟨s.item.die token, s.held.filter fun h => h.token ≠ token⟩

def step (s : ItemState) (act : ItemAct) : Option ItemState := some (s.apply act)

/-- An item as it is made, with nobody having anything. -/
def start (token : ℕ) (isHwcNeeded : Bool) (displays : KeyedVector ℕ) : ItemState :=
  ⟨.make token isHwcNeeded displays, []⟩

/-- The buffers whose slots the death of a client frees. -/
def freed (s : ItemState) (token : ℕ) : List BufferId :=
  (s.item.mConsumerList.entries.filter fun e =>
    e.2.token ≠ none ∧ ((s.item.die token).mConsumerList.valueFor e.1).bind ConsumerSlot.token = none).map
      fun e => e.2.buffer

/-- What is asked of a step: a buffer that is acquired was prepared and no other client has it, and a death frees what
the client had. -/
def StepOk (s : ItemState) : ItemAct → Prop
  | .acquire token b =>
    (s.item.acquire token b).1 = .noError →
      s.item.Prepared b ∧ ∀ h ∈ s.held, h.buffer = b → h.token = token
  | .release _ => True
  | .died token => ∀ b, b ∈ s.freed token ↔ ⟨token, b⟩ ∈ s.held

/-- The slot that a buffer's number leads to is the buffer's own, and no other client has it; the slot that a `release`
clears is free or held for the buffer it names. -/
def Regular (s : ItemState) : ItemAct → Prop
  | .acquire token b =>
    s.item.HasProducer b.usage b.type →
      ∀ slot ∈ s.item.mConsumerList.valueFor b.key,
        slot.buffer = b ∧ (slot.token = none ∨ slot.token = some token)
  | .release b =>
    s.item.HasProducer b.usage b.type →
      ∀ slot ∈ s.item.mConsumerList.valueFor b.key, slot.token = none ∨ slot.buffer = b
  | .died _ => True

instance (s : ItemState) : DecidablePred s.Regular
  | .acquire _ b =>
    inferInstanceAs (Decidable (_ → ∀ slot ∈ s.item.mConsumerList.valueFor b.key, _ ∧ (_ ∨ _)))
  | .release b =>
    inferInstanceAs (Decidable (_ → ∀ slot ∈ s.item.mConsumerList.valueFor b.key, _ ∨ _))
  | .died _ => isTrue trivial

/-- The slots are those of prepared buffers, each under the number of its own, and say who has what. -/
structure Inv (s : ItemState) : Prop where
  slot_ok : ∀ {k slot}, s.item.mConsumerList.valueFor k = some slot →
    k = slot.buffer.key ∧ s.item.Prepared slot.buffer
  held_iff : ∀ {h}, h ∈ s.held ↔ s.item.mConsumerList.valueFor h.buffer.key = some ⟨h.buffer, some h.token⟩

/-! ## Histories of an item -/

variable {s : ItemState} {b : BufferId}

lemma Inv.acquire (h : s.Inv) {token : ℕ} (hreg : s.Regular (.acquire token b)) :
    (s.apply (.acquire token b)).Inv := by
  rcases s.item.acquire_cases token b with ⟨hfail, heq⟩ | ⟨slot, hslot, hproducer, -, heq⟩
  · simp only [apply, hfail, heq, if_false]
    exact h
  · obtain ⟨hbuffer, hfree⟩ := hreg hproducer slot hslot
    simp only [apply, heq, if_true]
    by_cases htoken : slot.token = none
    · -- the slot is free: nobody has the buffer
      simp only [htoken, if_true]
      refine ⟨fun {k slot'} hk => ?_, fun {h'} => ?_⟩
      · exact forall_add (P := fun k slot => k = slot.buffer.key ∧ s.item.Prepared slot.buffer)
          ⟨rfl, hbuffer ▸ (h.slot_ok hslot).2⟩ (fun _ _ _ hk => h.slot_ok hk) k slot' hk
      · rw [mem_cons, valueFor_add, h.held_iff]
        split_ifs with hkey
        · obtain ⟨token', b'⟩ := h'
          have hnobody : s.item.mConsumerList.valueFor b'.key ≠ some ⟨b', some token'⟩ := by
            rw [hkey, hslot]
            rintro ⟨rfl⟩
            exact absurd htoken (some_ne_none _)
          simp only [hnobody, or_false, Option.some.injEq, Holding.mk.injEq, ConsumerSlot.mk.injEq]
          exact ⟨fun ⟨ht, hb⟩ => ⟨hb.symm, ht.symm⟩, fun ⟨hb, ht⟩ => ⟨ht.symm, hb.symm⟩⟩
        · refine or_iff_right ?_
          rintro rfl
          exact hkey rfl
    · -- the client has the buffer already
      have hown : slot.token = some token := hfree.resolve_left htoken
      obtain rfl : slot = ⟨b, some token⟩ := by rw [← hbuffer, ← hown]
      simp only [htoken, if_false]
      refine ⟨h.slot_ok, fun {h'} => ?_⟩
      rw [mem_cons, ← h.held_iff]
      refine or_iff_right_of_imp ?_
      rintro rfl
      exact h.held_iff.mpr hslot

lemma Inv.release (h : s.Inv) (hreg : s.Regular (.release b)) : (s.apply (.release b)).Inv := by
  rcases s.item.release_cases b with ⟨hfail, heq⟩ | ⟨hslot, heq⟩ | ⟨slot, hslot, hproducer, heq⟩
  · simp only [apply, hfail, heq, if_false]
    exact h
  · simp only [apply, heq, if_true]
    refine ⟨h.slot_ok, fun {h'} => ?_⟩
    rw [mem_filter, h.held_iff]
    refine and_iff_left_of_imp fun hheld => ?_
    have hne : h'.buffer ≠ b := by
      rintro rfl
      rw [hslot] at hheld
      exact absurd hheld.symm (some_ne_none _)
    simpa using hne
  · have hbuffer := hreg hproducer slot hslot
    simp only [apply, heq, if_true]
    refine ⟨fun {k slot'} hk => ?_, fun {h'} => ?_⟩
    · exact forall_add (P := fun k slot => k = slot.buffer.key ∧ s.item.Prepared slot.buffer) (h.slot_ok hslot)
        (fun _ _ _ hk => h.slot_ok hk) k slot' hk
    · rw [mem_filter, h.held_iff, valueFor_add]
      split_ifs with hkey
      · -- whoever has a buffer with this number has the one that is released
        refine iff_of_false ?_ (by simp)
        rintro ⟨hheld, hne⟩
        rw [hkey, hslot] at hheld
        cases hheld
        exact absurd (hbuffer.resolve_left (some_ne_none _)) (of_decide_eq_true hne)
      · refine and_iff_left_of_imp fun _ => ?_
        have hne : h'.buffer ≠ b := by
          rintro rfl
          exact hkey rfl
        simpa using hne

lemma Inv.died (h : s.Inv) (token : ℕ) : (s.apply (.died token)).Inv where
  slot_ok {k slot} hk := by
    rw [apply, PoolItem.die_valueFor] at hk
    obtain ⟨slot', hslot', rfl⟩ := map_eq_some_iff.mp hk
    rw [ConsumerSlot.buffer_clear, apply, PoolItem.Prepared, PoolItem.die_mHwcUsedBqList]
    exact h.slot_ok hslot'
  held_iff {h'} := by
    simp only [apply, mem_filter, decide_eq_true_eq, PoolItem.die_valueFor, map_eq_some_iff, h.held_iff]
    constructor
    · rintro ⟨hheld, hne⟩
      exact ⟨_, hheld, if_neg fun htoken => hne (Option.some.inj htoken)⟩
    · rintro ⟨slot, hslot, hclear⟩
      unfold ConsumerSlot.clear at hclear
      split_ifs at hclear with htoken
      · simp at hclear
      · subst hclear
        exact ⟨hslot, fun heq => htoken (congrArg some heq)⟩

/-- **The death of a client** frees what it has. -/
lemma Inv.mem_freed (h : s.Inv) {token : ℕ} : b ∈ s.freed token ↔ ⟨token, b⟩ ∈ s.held := by
  simp only [freed, List.mem_map, List.mem_filter, decide_eq_true_eq, h.held_iff]
  constructor
  · rintro ⟨⟨k, slot⟩, ⟨hmem, hheld, hfreed⟩, rfl⟩
    have hslot := valueFor_eq_some.mpr hmem
    rw [PoolItem.die_valueFor, hslot] at hfreed
    have htoken := (ConsumerSlot.clear_token.mp hfreed).resolve_left hheld
    rw [← (h.slot_ok hslot).1, hslot, ← htoken]
  · intro hslot
    refine ⟨(b.key, ⟨b, some token⟩), ⟨valueFor_eq_some.mp hslot, by simp, ?_⟩, rfl⟩
    rw [PoolItem.die_valueFor, hslot]
    exact ConsumerSlot.clear_token.mpr (.inr rfl)

lemma start_inv (token : ℕ) (isHwcNeeded : Bool) (displays : KeyedVector ℕ) :
    (start token isHwcNeeded displays).Inv where
  slot_ok {k slot} hk :=
    ⟨(PoolItem.prepareBuffer_fresh _ _ _ hk).1,
      PoolItem.prepareBuffer_onlyPrepared (.make token isHwcNeeded displays) k slot hk⟩
  held_iff {h} := by
    refine iff_of_false not_mem_nil fun hk => ?_
    exact absurd (PoolItem.prepareBuffer_fresh _ _ _ hk).2.1 (some_ne_none _)

lemma step_inv {s' : ItemState} {act : ItemAct} (h : s.Inv) (hreg : s.Regular act)
    (hs' : s.step act = some s') : s'.Inv := by
  cases hs'
  cases act with
  | acquire token b => exact h.acquire hreg
  | release b => exact h.release hreg
  | died token => exact h.died token

lemma Inv.stepOk (h : s.Inv) {act : ItemAct} (hreg : s.Regular act) : s.StepOk act := by
  cases act with
  | acquire token b =>
    intro hok
    rcases s.item.acquire_cases token b with ⟨hfail, -⟩ | ⟨slot, hslot, hproducer, -, -⟩
    · exact absurd hok hfail
    · have hregular := hreg hproducer
      refine ⟨(hregular slot hslot).1 ▸ (h.slot_ok hslot).2, ?_⟩
      rintro h' hh' rfl
      rcases (hregular _ (h.held_iff.mp hh')).2 with hnone | hown
      · exact absurd hnone (some_ne_none _)
      · exact Option.some.inj hown
  | release b => trivial
  | died token => exact fun b => h.mem_freed

/-- **Who is given a buffer.**  In any history of an item in which the slot that an `acquire` comes to is the buffer's
own and not another client's, and a slot is only released for the buffer it is held for, every buffer that is acquired
was prepared and no other client has it, and every death frees exactly what the client had. -/
theorem acquired_exclusive (token : ℕ) (isHwcNeeded : Bool) (displays : KeyedVector ℕ) (acts : List ItemAct)
    (hreg : StepsMeet step Regular (start token isHwcNeeded displays) acts) :
    StepsMeet step StepOk (start token isHwcNeeded displays) acts :=
  stepsMeet_imp (fun _ _ _ h hreg hs' => step_inv h hreg hs') (fun _ _ h hreg => h.stepOk hreg)
    (start_inv token isHwcNeeded displays) hreg

/-- The primary display, with three buffers. -/
def primaryDisplay : KeyedVector ℕ := SortedVector.empty.add 0 3

/-- Two clients with a buffer each; one releases and acquires again, the other dies. -/
def twoClients : List ItemAct :=
  [.acquire 1 ⟨1, 0, 0⟩, .acquire 2 ⟨1, 0, 1⟩, .release ⟨1, 0, 0⟩, .acquire 1 ⟨1, 0, 2⟩, .died 2,
    .acquire 1 ⟨1, 0, 1⟩]

theorem acquired_exclusive_twoClients :
    StepsMeet step Regular (start 9 true primaryDisplay) twoClients
      ∧ StepsMeet step StepOk (start 9 true primaryDisplay) twoClients := by
  have hreg : StepsMeet step Regular (start 9 true primaryDisplay) twoClients := by decide
  exact ⟨hreg, acquired_exclusive 9 true primaryDisplay twoClients hreg⟩

/-- **The defect**: a second client acquires the buffer that the first one has. -/
theorem held_buffer_acquired :
    ∃ s, run step (start 9 true primaryDisplay) [.acquire 1 ⟨1, 0, 0⟩] = some s
      ∧ ⟨1, ⟨1, 0, 0⟩⟩ ∈ s.held ∧ (s.item.acquire 2 ⟨1, 0, 0⟩).1 = .noError
      ∧ ¬ s.StepOk (.acquire 2 ⟨1, 0, 0⟩) := by
  refine ⟨_, rfl, by decide, by decide, fun hok => ?_⟩
  exact absurd ((hok (by decide)).2 ⟨1, ⟨1, 0, 0⟩⟩ (by decide) rfl) (by decide)

end ItemState

end Hal
