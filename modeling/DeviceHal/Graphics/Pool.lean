import Mathlib.Data.List.Perm.Subperm
import DeviceHal.Graphics.PoolItem

/-!
# The lifetime of pool items

`GuiExtPool` keeps the items under numbers from 1 to 10.  An item is to go once its producer has freed it or died
and every consumer has disconnected or died.  Of the consumers an item has only a flag for each usage, which
`acquire` clears, `disconnect` sets, and the death of a consumer works out anew from the tokens in the slots.

**The defect.**  The flag does not say who is connected.  `disconnect` sets it for all consumers of the usage, of
whatever display type; a death sets it unless some slot is held at that moment; and the death of a consumer that holds
no slot is not noticed at all, since its observer went with its last slot.

* `PoolState.step` — an operation or a death as one step; `Graphics.PoolObservers` takes the deaths apart.
* `Tracked.Mirror` — the flags of an item say whether a consumer is connected.
* **`step_inv`** — regular steps keep the flags right, and so remove an item exactly when all its parties are gone.
-/

namespace Hal

open List SortedVector

def maxAllocSize : ℕ := 10

def maxHwcDequeuedNum : ℕ := 3

def grallocUsageHwComposer : ℕ := 0x800

def hwcDisplayPrimary : ℕ := 0

/-- A consumer of an item: a client, for a usage and a display type. -/
structure Consumer where
  token : ℕ
  usage : ℕ
  type : ℕ
deriving DecidableEq

/-- An item.  `connected` is a ghost: the consumers that acquired from it and have not disconnected or died. -/
structure Tracked where
  item : PoolItem
  connected : List Consumer

namespace Tracked

/-- The producer is gone, and no consumer is connected. -/
def Over (e : Tracked) : Prop := e.item.mProducerToken = none ∧ e.connected = []

instance (e : Tracked) : Decidable e.Over := inferInstanceAs (Decidable (_ ∧ _))

def Removable (e : Tracked) : Prop :=
  e.item.gpuDisconnected = true ∧ e.item.hwcDisconnected = true ∧ e.item.mProducerToken = none

instance (e : Tracked) : Decidable e.Removable := inferInstanceAs (Decidable (_ ∧ _ ∧ _))

def freeProducer (e : Tracked) : Tracked := { e with item := { e.item with mProducerToken := none } }

def acquire (e : Tracked) (token : ℕ) (b : BufferId) : Tracked where
  item := (e.item.acquire token b).2
  connected :=
    if (e.item.acquire token b).1 = .noError then ⟨token, b.usage, b.type⟩ :: e.connected else e.connected

def release (e : Tracked) (b : BufferId) : Tracked := { e with item := (e.item.release b).2 }

def disconnect (e : Tracked) (c : Consumer) : Tracked where
  item := (e.item.disconnect c.usage).2
  connected := e.connected.filter (· ≠ c)

def die (e : Tracked) (token : ℕ) : Tracked where
  item := e.item.die token
  connected := e.connected.filter fun c => c.token ≠ token

/-- `isDisconnect`: no slot has a token. -/
def NoneHeld (e : Tracked) : Prop := ∀ slot ∈ e.item.mConsumerList.entries, slot.2.token = none

instance (e : Tracked) : Decidable e.NoneHeld :=
  inferInstanceAs (Decidable (∀ slot ∈ e.item.mConsumerList.entries, _))

end Tracked

/-- `GuiExtPool`.  A display is the number of its buffers.  `removed` is a ghost, the items that are gone. -/
structure PoolState where
  mPoolId : ℕ
  mPoolList : KeyedVector Tracked
  mDisplayList : KeyedVector ℕ
  removed : List Tracked

/-- What happens to the pool.  `disconnect` is given the client that calls it, which the code does not know. -/
inductive PoolAct where
  | configDisplay (type : ℕ) (enable : Bool) (w h bufNum : ℕ)
  | alloc (token grallocUsage : ℕ)
  | free (poolId : ℕ)
  | acquire (token poolId : ℕ) (b : BufferId)
  | release (poolId : ℕ) (b : BufferId)
  | disconnect (poolId : ℕ) (c : Consumer)
  | producerDied (token : ℕ)
  | consumerDied (token poolId : ℕ)

/-- `(mPoolId + 1) % MAX_ALLOC_SIZE`. -/
def nextPoolId (mPoolId : ℕ) : ℕ := (mPoolId + 1) % maxAllocSize

/-- `mPoolId == 0 ? MAX_ALLOC_SIZE : mPoolId`. -/
def poolIdOf (mPoolId : ℕ) : ℕ := if mPoolId = 0 then maxAllocSize else mPoolId

/-- The loop of `getPoolId`, at most `fuel` rounds. -/
def getPoolIdFrom (used : ℕ → Bool) : ℕ → ℕ → ℕ
  | 0, mPoolId => poolIdOf mPoolId
  | fuel + 1, mPoolId =>
    let id := poolIdOf (nextPoolId mPoolId)
    if used id = true then getPoolIdFrom used fuel (nextPoolId mPoolId) else id

namespace PoolState

def getPoolId (s : PoolState) : ℕ :=
  getPoolIdFrom (fun id => (s.mPoolList.valueFor id).isSome) maxAllocSize s.mPoolId

def store (s : PoolState) (poolId : ℕ) (e : Tracked) : PoolState :=
  { s with mPoolList := s.mPoolList.add poolId e }

def removePoolItemLocked (s : PoolState) (poolId : ℕ) : PoolState :=
  match s.mPoolList.valueFor poolId with
  | none => s
  | some e =>
    if e.Removable then { s with mPoolList := s.mPoolList.removeItem poolId, removed := e :: s.removed } else s

def configDisplay (s : PoolState) (type : ℕ) (enable : Bool) (w h bufNum : ℕ) : PoolState :=
  if enable = false ∨ w = 0 ∨ h = 0 ∨ bufNum = 0 then
    match s.mDisplayList.valueFor type with
    | none => s
    | some _ => { s with mDisplayList := s.mDisplayList.removeItem type }
  else { s with mDisplayList := s.mDisplayList.add type bufNum }

/-- `alloc`.  Whatever was under the number of the new item would be gone. -/
def alloc (s : PoolState) (token grallocUsage : ℕ) : PoolState :=
  if s.mPoolList.size ≥ maxAllocSize then s
  else
    let displays :=
      if s.mPoolList.size = 0 then s.mDisplayList.add hwcDisplayPrimary maxHwcDequeuedNum else s.mDisplayList
    let poolId := s.getPoolId
    let isHwcNeeded := decide (grallocUsage &&& grallocUsageHwComposer ≠ 0)
    { mPoolId := poolId
      mPoolList := s.mPoolList.add poolId ⟨.make token isHwcNeeded displays, []⟩
      mDisplayList := displays
      removed := (s.mPoolList.valueFor poolId).toList ++ s.removed }

def free (s : PoolState) (poolId : ℕ) : PoolState :=
  match s.mPoolList.valueFor poolId with
  | none => s
  | some e => (s.store poolId e.freeProducer).removePoolItemLocked poolId

def acquire (s : PoolState) (token poolId : ℕ) (b : BufferId) : PoolState :=
  match s.mPoolList.valueFor poolId with
  | none => s
  | some e => s.store poolId (e.acquire token b)

def release (s : PoolState) (poolId : ℕ) (b : BufferId) : PoolState :=
  match s.mPoolList.valueFor poolId with
  | none => s
  | some e => s.store poolId (e.release b)

def disconnect (s : PoolState) (poolId : ℕ) (c : Consumer) : PoolState :=
  match s.mPoolList.valueFor poolId with
  | none => s
  | some e => (s.store poolId (e.disconnect c)).removePoolItemLocked poolId

/-- A round of the loop in `ProducerDeathObserver::binderDied`. -/
def producerDiedAt (token : ℕ) (s : PoolState) (poolId : ℕ) : PoolState :=
  match s.mPoolList.valueFor poolId with
  | none => s
  | some e =>
    if e.item.mProducerToken = some token then (s.store poolId e.freeProducer).removePoolItemLocked poolId else s

/-- `ProducerDeathObserver::binderDied`, from the last item to the first. -/
def producerDied (s : PoolState) (token : ℕ) : PoolState :=
  (s.mPoolList.entries.map Prod.fst).reverse.foldl (producerDiedAt token) s

/-- The death of a client, for an item.  If no slot of the item has its token the item is not told. -/
def consumerDied (s : PoolState) (token poolId : ℕ) : PoolState :=
  match s.mPoolList.valueFor poolId with
  | none => s
  | some e =>
    if e.item.Holds token ∧ (e.die token).NoneHeld then
      (s.store poolId (e.die token)).removePoolItemLocked poolId
    else s.store poolId (e.die token)

def apply (s : PoolState) : PoolAct → PoolState
  | .configDisplay type enable w h bufNum => s.configDisplay type enable w h bufNum
  | .alloc token grallocUsage => s.alloc token grallocUsage
  | .free poolId => s.free poolId
  | .acquire token poolId b => s.acquire token poolId b
  | .release poolId b => s.release poolId b
  | .disconnect poolId c => s.disconnect poolId c
  | .producerDied token => s.producerDied token
  | .consumerDied token poolId => s.consumerDied token poolId

def step (s : PoolState) (act : PoolAct) : Option PoolState := some (s.apply act)

def start : PoolState := ⟨0, .empty, .empty, []⟩

/-- An item that is gone is over, and one that is over is gone. -/
structure Ok (s : PoolState) : Prop where
  removed_over : ∀ e ∈ s.removed, e.Over
  over_removed : ∀ poolId e, s.mPoolList.valueFor poolId = some e → ¬ e.Over

end PoolState

namespace Tracked

/-- Only the last consumer of the usage disconnects. -/
def DisconnectRegular (e : Tracked) (c : Consumer) : Prop :=
  c.usage = guiExtUsageHwc → e.connected.filter (· ≠ c) = []

instance (e : Tracked) (c : Consumer) : Decidable (e.DisconnectRegular c) := inferInstanceAs (Decidable (_ → _))

/-- No other client has a slot. -/
def HeldOnlyBy (e : Tracked) (token : ℕ) : Prop :=
  ∀ slot ∈ e.item.mConsumerList.entries, slot.2.token = none ∨ slot.2.token = some token

instance (e : Tracked) (token : ℕ) : Decidable (e.HeldOnlyBy token) :=
  inferInstanceAs (Decidable (∀ slot ∈ e.item.mConsumerList.entries, _ ∨ _))

/-- No other client is connected. -/
def ConnectedOnly (e : Tracked) (token : ℕ) : Prop := ∀ c ∈ e.connected, c.token = token

instance (e : Tracked) (token : ℕ) : Decidable (e.ConnectedOnly token) :=
  inferInstanceAs (Decidable (∀ c ∈ e.connected, _))

/-- If the item will be told of the death, another client has a slot exactly if another one is connected; if it will
not, the client is not the last one connected. -/
def DeathRegular (e : Tracked) (token : ℕ) : Prop :=
  if e.item.Holds token then e.HeldOnlyBy token ↔ e.ConnectedOnly token
  else e.ConnectedOnly token → e.connected = []

instance (e : Tracked) (token : ℕ) : Decidable (e.DeathRegular token) :=
  inferInstanceAs (Decidable (if e.item.Holds token then e.HeldOnlyBy token ↔ e.ConnectedOnly token
    else e.ConnectedOnly token → e.connected = []))

end Tracked

/-- `szUsageName` and `szDisplayType` have texts for them. -/
def HasTexts (usage type : ℕ) : Prop := usage < guiExtUsageMax ∧ type < hwcNumDisplayTypes

instance (usage type : ℕ) : Decidable (HasTexts usage type) := inferInstanceAs (Decidable (_ ∧ _))

namespace PoolState

def Regular (s : PoolState) : PoolAct → Prop
  | .acquire _ _ b | .release _ b => HasTexts b.usage b.type
  | .disconnect poolId c =>
    HasTexts c.usage c.type ∧ ∀ e ∈ s.mPoolList.valueFor poolId, e.DisconnectRegular c
  | .consumerDied token poolId => ∀ e ∈ s.mPoolList.valueFor poolId, e.DeathRegular token
  | _ => True

instance (s : PoolState) : DecidablePred s.Regular
  | .acquire _ _ b | .release _ b => inferInstanceAs (Decidable (HasTexts b.usage b.type))
  | .disconnect poolId c =>
    inferInstanceAs (Decidable (_ ∧ ∀ e ∈ s.mPoolList.valueFor poolId, e.DisconnectRegular c))
  | .consumerDied token poolId =>
    inferInstanceAs (Decidable (∀ e ∈ s.mPoolList.valueFor poolId, e.DeathRegular token))
  | .configDisplay .. | .alloc .. | .free _ | .producerDied _ => isTrue trivial

end PoolState

/-! ## The numbers of new items -/

/-- If the number that the loop ends with is used, so are all it has come by. -/
lemma used_of_getPoolIdFrom (used : ℕ → Bool) {fuel mPoolId : ℕ} (h : used (getPoolIdFrom used fuel mPoolId) = true)
    (j : ℕ) (hj : j < fuel) : used (poolIdOf ((mPoolId + j + 1) % maxAllocSize)) = true := by
  induction fuel generalizing mPoolId j with
  | zero => exact absurd hj (Nat.not_lt_zero j)
  | succ fuel ih =>
    simp only [getPoolIdFrom] at h
    split_ifs at h with hused
    · cases j with
      | zero => exact hused
      | succ j =>
        have hnext : (nextPoolId mPoolId + j + 1) % maxAllocSize = (mPoolId + (j + 1) + 1) % maxAllocSize := by
          unfold nextPoolId maxAllocSize
          omega
        rw [← hnext]
        exact ih h j (by omega)
    · exact absurd h hused

/-- **A number that is not used is found** if fewer than ten are. -/
lemma getPoolIdFrom_unused {v : KeyedVector Tracked} (hsize : v.size < maxAllocSize) (mPoolId : ℕ) :
    v.valueFor (getPoolIdFrom (fun id => (v.valueFor id).isSome) maxAllocSize mPoolId) = none := by
  by_contra hused
  have hall := used_of_getPoolIdFrom (fun id => (v.valueFor id).isSome) (Option.isSome_iff_ne_none.mpr hused)
  have hsubset : (List.range maxAllocSize).map (· + 1) ⊆ v.entries.map Prod.fst := by
    intro id hid
    obtain ⟨i, hi, rfl⟩ := mem_map.mp hid
    have hlt := mem_range.mp hi
    unfold maxAllocSize at hlt
    -- the round in which the loop comes by this number
    have hround := hall ((i + 9 * mPoolId) % 10) (Nat.mod_lt _ (by decide))
    have hid : poolIdOf ((mPoolId + (i + 9 * mPoolId) % 10 + 1) % maxAllocSize) = i + 1 := by
      unfold poolIdOf maxAllocSize
      split_ifs <;> omega
    rw [hid] at hround
    obtain ⟨e, he⟩ := Option.isSome_iff_exists.mp hround
    exact mem_map_of_mem (valueFor_eq_some.mp he)
  have hnodup : ((List.range maxAllocSize).map (· + 1)).Nodup := by decide
  have hlength := (subperm_of_subset hnodup hsubset).length_le
  rw [length_map, length_range, length_map] at hlength
  exact Nat.not_lt.mpr hlength hsize

/-! ## The flags and the consumers -/

/-- Every slot is under the number of its buffer, and for the display. -/
def PoolItem.SlotsForHwc (item : PoolItem) : Prop :=
  ∀ k slot, item.mConsumerList.valueFor k = some slot → k = slot.buffer.key ∧ slot.buffer.usage = guiExtUsageHwc

namespace Tracked

/-- The flags say whether a consumer is connected. -/
structure Mirror (e : Tracked) : Prop where
  gpu : e.item.gpuDisconnected = true
  hwc_iff : e.item.hwcDisconnected = true ↔ e.connected = []
  slots : e.item.SlotsForHwc
  connected_usage : ∀ c ∈ e.connected, c.usage = guiExtUsageHwc
  needed : e.item.mIsHwcNeeded = false → e.connected = []

variable {e : Tracked} {token : ℕ}

lemma Mirror.removable_iff (h : e.Mirror) : e.Removable ↔ e.Over := by
  unfold Removable Over
  rw [h.hwc_iff]
  exact ⟨fun ⟨_, hempty, hgone⟩ => ⟨hgone, hempty⟩, fun ⟨hgone, hempty⟩ => ⟨h.gpu, hempty, hgone⟩⟩

lemma Mirror.freeProducer (h : e.Mirror) : e.freeProducer.Mirror :=
  ⟨h.gpu, h.hwc_iff, h.slots, h.connected_usage, h.needed⟩

lemma Mirror.acquire (h : e.Mirror) (hover : ¬ e.Over) (token : ℕ) (b : BufferId) :
    (e.acquire token b).Mirror ∧ ¬ (e.acquire token b).Over := by
  rcases e.item.acquire_cases token b with ⟨hfail, heq⟩ | ⟨slot, hslot, ⟨husage, -⟩, hneeded, heq⟩
  · have hsame : e.acquire token b = e := by
      unfold Tracked.acquire
      rw [heq, if_neg hfail]
    rw [hsame]
    exact ⟨h, hover⟩
  · have hconnected : (e.acquire token b).connected = ⟨token, b.usage, b.type⟩ :: e.connected := by
      simp [Tracked.acquire, heq]
    have hitem : (e.acquire token b).item = (e.item.acquire token b).2 := rfl
    rw [heq] at hitem
    refine ⟨⟨?_, ?_, ?_, ?_, ?_⟩, fun hover' => ?_⟩
    · rw [hitem]
      exact h.gpu
    · simp [hitem, hconnected]
    · rw [hitem, PoolItem.SlotsForHwc]
      split_ifs
      · exact forall_add ⟨rfl, husage⟩ fun k slot' _ hk => h.slots k slot' hk
      · exact h.slots
    · rw [hconnected]
      exact forall_mem_cons.mpr ⟨husage, h.connected_usage⟩
    · intro hnot
      rw [hitem] at hnot
      exact absurd (hneeded.symm.trans hnot) (by decide)
    · exact absurd (hconnected.symm.trans hover'.2) (cons_ne_nil _ _)

lemma Mirror.release (h : e.Mirror) (b : BufferId) : (e.release b).Mirror := by
  rcases e.item.release_cases b with ⟨-, heq⟩ | ⟨-, heq⟩ | ⟨slot, hslot, -, heq⟩
  · rw [Tracked.release, heq]
    exact h
  · rw [Tracked.release, heq]
    exact h
  · rw [Tracked.release, heq]
    refine ⟨h.gpu, h.hwc_iff, ?_, h.connected_usage, h.needed⟩
    exact forall_add (h.slots _ slot hslot) fun k slot' _ hk => h.slots k slot' hk

lemma release_over (e : Tracked) (b : BufferId) : (e.release b).Over ↔ e.Over := by
  unfold Over
  rcases e.item.release_cases b with ⟨-, heq⟩ | ⟨-, heq⟩ | ⟨slot, hslot, -, heq⟩ <;> rw [Tracked.release, heq]

/-- **Only the last consumer of the usage disconnects.** -/
lemma Mirror.disconnect (h : e.Mirror) {c : Consumer} (husage : c.usage < guiExtUsageMax)
    (hlast : e.DisconnectRegular c) : (e.disconnect c).Mirror := by
  have hconnected : ∀ c' ∈ e.connected.filter (· ≠ c), c'.usage = guiExtUsageHwc := fun c' hc' =>
    h.connected_usage c' (mem_of_mem_filter hc')
  unfold Tracked.disconnect PoolItem.disconnect
  split_ifs with hnot
  · have hnone := h.needed hnot.1
    refine ⟨h.gpu, ?_, h.slots, hconnected, fun _ => by simp [hnone]⟩
    rw [h.hwc_iff, hnone]
    simp
  · rcases (by unfold guiExtUsageMax at husage; omega : c.usage = 0 ∨ c.usage = 1) with hgpu | hhwc
    · -- nobody is connected for the GPU
      have hsame : e.connected.filter (· ≠ c) = e.connected := by
        refine filter_eq_self.mpr fun c' hc' => ?_
        have hne : c' ≠ c := by
          rintro rfl
          exact absurd ((h.connected_usage c' hc').symm.trans hgpu) (by decide)
        simpa using hne
      simp only [PoolItem.setDisconnected, hgpu, hsame]
      exact ⟨rfl, h.hwc_iff, h.slots, h.connected_usage, h.needed⟩
    · simp only [PoolItem.setDisconnected, hhwc]
      have hempty := hlast hhwc
      exact ⟨h.gpu, iff_of_true rfl hempty, h.slots, hconnected, fun _ => hempty⟩

lemma Mirror.die_slots (h : e.Mirror) (token : ℕ) : (e.die token).item.SlotsForHwc := by
  intro k slot hk
  rw [Tracked.die, PoolItem.die_valueFor] at hk
  obtain ⟨slot', hslot', rfl⟩ := Option.map_eq_some_iff.mp hk
  rw [ConsumerSlot.buffer_clear]
  exact h.slots k slot' hslot'

lemma isHeldFor_iff (husage : e.item.SlotsForHwc) (usage : ℕ) :
    e.item.IsHeldFor usage ↔ ¬ e.NoneHeld ∧ usage = guiExtUsageHwc := by
  unfold PoolItem.IsHeldFor NoneHeld
  constructor
  · rintro ⟨⟨k, slot⟩, hmem, hheld, rfl⟩
    exact ⟨fun hnone => hheld (hnone _ hmem), (husage k slot (valueFor_eq_some.mpr hmem)).2⟩
  · rintro ⟨hnone, rfl⟩
    simp only [not_forall] at hnone
    obtain ⟨⟨k, slot⟩, hmem, hheld⟩ := hnone
    exact ⟨(k, slot), hmem, hheld, (husage k slot (valueFor_eq_some.mpr hmem)).2⟩

lemma noneHeld_die (h : e.item.Holds token) : (e.die token).NoneHeld ↔ e.HeldOnlyBy token := by
  have hentries : (e.die token).item.mConsumerList.entries
      = e.item.mConsumerList.entries.map fun slot => (slot.1, slot.2.clear token) := by
    simp only [Tracked.die, PoolItem.die, h, if_true, mapValues]
  unfold NoneHeld HeldOnlyBy
  rw [hentries, forall_mem_map]
  exact forall₂_congr fun _ _ => ConsumerSlot.clear_token

lemma connected_die : (e.die token).connected = [] ↔ e.ConnectedOnly token := by
  simp [Tracked.die, ConnectedOnly]

/-- **A death is noticed where the consumer is the last one, and leaves a slot held where it is not.** -/
lemma Mirror.die (h : e.Mirror) (hreg : e.DeathRegular token) : (e.die token).Mirror := by
  have hconnected : ∀ c ∈ (e.die token).connected, c.usage = guiExtUsageHwc := fun c hc =>
    h.connected_usage c (mem_of_mem_filter hc)
  have hneeded : (e.die token).item.mIsHwcNeeded = false → (e.die token).connected = [] := fun hnot => by
    have hnone := h.needed ((e.item.die_mIsHwcNeeded token).symm.trans hnot)
    simp [Tracked.die, hnone]
  unfold DeathRegular at hreg
  rw [← connected_die] at hreg
  split_ifs at hreg with hholds
  · rw [← noneHeld_die hholds] at hreg
    have hgpu : (e.die token).item.gpuDisconnected = decide (¬ (e.die token).item.IsHeldFor guiExtUsageGpu) :=
      (PoolItem.die_flags hholds).1
    have hhwc : (e.die token).item.hwcDisconnected = decide (¬ (e.die token).item.IsHeldFor guiExtUsageHwc) :=
      (PoolItem.die_flags hholds).2
    have hflag := isHeldFor_iff (h.die_slots token)
    refine ⟨?_, ?_, h.die_slots token, hconnected, hneeded⟩
    · rw [hgpu, decide_eq_true_eq, hflag]
      exact fun hheld => absurd hheld.2 (by decide)
    · rw [hhwc, decide_eq_true_eq, hflag, ← hreg]
      simp
  · have hitem : (e.die token).item = e.item := PoolItem.die_of_not_holds hholds
    refine ⟨by rw [hitem]; exact h.gpu, ?_, h.die_slots token, hconnected, hneeded⟩
    rw [hitem, h.hwc_iff]
    exact ⟨fun hnone => by simp [Tracked.die, hnone], hreg⟩

end Tracked

/-! ## Histories of the pool -/

namespace PoolState

structure Inv (s : PoolState) : Prop where
  items : ∀ poolId e, s.mPoolList.valueFor poolId = some e → e.Mirror ∧ ¬ e.Over
  removed_over : ∀ e ∈ s.removed, e.Over

variable {s : PoolState}

lemma Inv.ok (h : s.Inv) : s.Ok := ⟨h.removed_over, fun poolId e he => (h.items poolId e he).2⟩

lemma Inv.store (h : s.Inv) (poolId : ℕ) {e : Tracked} (he : e.Mirror ∧ ¬ e.Over) : (s.store poolId e).Inv :=
  ⟨forall_add he fun k e' _ hk => h.items k e' hk, h.removed_over⟩

/-- **An item is removed if it is over**, once its flags say who is connected. -/
lemma Inv.settle (h : s.Inv) (poolId : ℕ) {e : Tracked} (he : e.Mirror) :
    ((s.store poolId e).removePoolItemLocked poolId).Inv := by
  have hvalue : (s.store poolId e).mPoolList.valueFor poolId = some e := by
    rw [PoolState.store, valueFor_add, if_pos rfl]
  unfold removePoolItemLocked
  rw [hvalue]
  dsimp only
  split_ifs with hremovable
  · refine ⟨fun k e' hk => ?_, forall_mem_cons.mpr ⟨he.removable_iff.mp hremovable, h.removed_over⟩⟩
    simp only [PoolState.store, valueFor_removeItem, valueFor_add] at hk
    split_ifs at hk
    exact h.items k e' hk
  · exact h.store poolId ⟨he, fun hover => hremovable (he.removable_iff.mpr hover)⟩

lemma make_mirror (token : ℕ) (isHwcNeeded : Bool) (displays : KeyedVector ℕ) :
    Tracked.Mirror ⟨.make token isHwcNeeded displays, []⟩ where
  gpu := rfl
  hwc_iff := iff_of_true rfl rfl
  slots k slot hk := (PoolItem.prepareBuffer_fresh _ k slot hk).imp_right And.right
  connected_usage _ hc := absurd hc not_mem_nil
  needed _ := rfl

lemma Inv.alloc (h : s.Inv) (token grallocUsage : ℕ) : (s.alloc token grallocUsage).Inv := by
  by_cases hfull : s.mPoolList.size ≥ maxAllocSize
  · simpa only [PoolState.alloc, hfull, if_true] using h
  · simp only [PoolState.alloc, hfull, if_false]
    have hunused : s.mPoolList.valueFor s.getPoolId = none := getPoolIdFrom_unused (by omega) s.mPoolId
    refine ⟨forall_add ?_ fun k e _ hk => h.items k e hk, ?_⟩
    · exact ⟨make_mirror _ _ _, fun hover => absurd hover.1 (Option.some_ne_none _)⟩
    · simpa [hunused] using h.removed_over

lemma Inv.configDisplay (h : s.Inv) (type : ℕ) (enable : Bool) (w height bufNum : ℕ) :
    (s.configDisplay type enable w height bufNum).Inv := by
  unfold PoolState.configDisplay
  split_ifs
  · cases s.mDisplayList.valueFor type with
    | none => exact h
    | some _ => exact ⟨h.items, h.removed_over⟩
  · exact ⟨h.items, h.removed_over⟩

lemma Inv.free (h : s.Inv) (poolId : ℕ) : (s.free poolId).Inv := by
  unfold PoolState.free
  cases he : s.mPoolList.valueFor poolId with
  | none => exact h
  | some e => exact h.settle poolId (h.items poolId e he).1.freeProducer

lemma Inv.producerDied (h : s.Inv) (token : ℕ) : (s.producerDied token).Inv := by
  refine List.foldlRecOn _ _ h fun s hs poolId _ => ?_
  unfold producerDiedAt
  cases he : s.mPoolList.valueFor poolId with
  | none => exact hs
  | some e =>
    dsimp only
    split_ifs
    · exact hs.settle poolId (hs.items poolId e he).1.freeProducer
    · exact hs

lemma Inv.consumerDied (h : s.Inv) {token poolId : ℕ} (hreg : s.Regular (.consumerDied token poolId)) :
    (s.consumerDied token poolId).Inv := by
  unfold PoolState.consumerDied
  cases he : s.mPoolList.valueFor poolId with
  | none => exact h
  | some e =>
    have hdeath := hreg e he
    have hmirror := (h.items poolId e he).1.die hdeath
    dsimp only
    split_ifs with hlast
    · exact h.settle poolId hmirror
    · refine h.store poolId ⟨hmirror, fun hover => ?_⟩
      unfold Tracked.DeathRegular at hdeath
      rw [← Tracked.connected_die] at hdeath
      split_ifs at hdeath with hholds
      · exact hlast ⟨hholds, (Tracked.noneHeld_die hholds).mpr (hdeath.mpr hover.2)⟩
      · have hitem : (e.die token).item = e.item := PoolItem.die_of_not_holds hholds
        exact (h.items poolId e he).2 ⟨hitem ▸ hover.1, hdeath hover.2⟩

lemma step_inv {s' : PoolState} {act : PoolAct} (h : s.Inv) (hreg : s.Regular act) (hs' : s.step act = some s') :
    s'.Inv := by
  cases hs'
  cases act with
  | configDisplay type enable w height bufNum => exact h.configDisplay type enable w height bufNum
  | alloc token grallocUsage => exact h.alloc token grallocUsage
  | free poolId => exact h.free poolId
  | acquire token poolId b =>
    simp only [apply, acquire]
    cases he : s.mPoolList.valueFor poolId with
    | none => exact h
    | some e =>
      obtain ⟨hmirror, hover⟩ := h.items poolId e he
      exact h.store poolId (hmirror.acquire hover token b)
  | release poolId b =>
    simp only [apply, release]
    cases he : s.mPoolList.valueFor poolId with
    | none => exact h
    | some e =>
      obtain ⟨hmirror, hover⟩ := h.items poolId e he
      exact h.store poolId ⟨hmirror.release b, fun hover' => hover ((e.release_over b).mp hover')⟩
  | disconnect poolId c =>
    simp only [apply, disconnect]
    cases he : s.mPoolList.valueFor poolId with
    | none => exact h
    | some e => exact h.settle poolId ((h.items poolId e he).1.disconnect hreg.1.1 (hreg.2 e he))
  | producerDied token => exact h.producerDied token
  | consumerDied token poolId => exact h.consumerDied hreg

lemma start_inv : start.Inv := by
  refine ⟨fun poolId e he => ?_, fun e he => absurd he not_mem_nil⟩
  exact absurd he.symm (Option.some_ne_none _)

end PoolState

end Hal
