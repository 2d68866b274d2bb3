import DeviceHal.Core.Calls
import DeviceHal.Graphics.Pool

/-!
# When pool items go

The operations of `GuiExtPool` hold its lock.  The observers that are called when a client has died do not: they look
at slots and flags one by one while other calls go on, and take the lock only to remove an item.  Each call is
therefore a sequence of accesses (`Accesses`); what a locked operation does to the pool is one of them.

The operations also write a message with the texts of the usage and the display type, and look these up without a
check.  `badText` is a ghost: an array was left.

* `PoolItem.observe` — `ConsumerDeathObserver::binderDied` on its item, and **`exec_observe`**: with nobody in between
  it is `PoolItem.die`.
* `SharedPool.call` — the calls, and **`whole_call`**: with nobody in between they are the steps of `PoolState`.
* **`items_removed_exactly`** — an item is gone exactly when all its parties are.
-/

namespace Hal

open List SortedVector

/-! ## The observer of a consumer -/

namespace PoolItem

/-- A round of the first loop: a slot with the token is released. -/
def clearSlot (token k : ℕ) : Accesses PoolItem Unit := do
  match ← .read fun item => item.mConsumerList.valueFor k with
  | none => return
  | some slot =>
    if slot.token = some token then
      .write fun item => (item.release slot.buffer).2
      .write fun item =>
        { item with mConsumerList := item.mConsumerList.modify k fun slot => { slot with token := none } }

/-- A round of the second loop: a slot that is held clears the flag of its usage. -/
def recountSlot (isDisconnect : Bool) (k : ℕ) : Accesses PoolItem Bool := do
  match ← .read fun item => item.mConsumerList.valueFor k with
  | none => return isDisconnect
  | some slot =>
    if slot.token = none then return isDisconnect
    else
      .write fun item => item.setDisconnected slot.buffer.usage false
      return false

/-- `ConsumerDeathObserver::binderDied`, and whether the listener is called.  The numbers of the slots stay the same as
long as the item lives. -/
def observe (token : ℕ) : Accesses PoolItem Bool := do
  let keys ← .read fun item => item.mConsumerList.keys
  if keys = [] then return false
  else
    keys.foldlM (fun _ k => clearSlot token k) ()
    .write fun item => item.setDisconnected guiExtUsageGpu true
    .write fun item => item.setDisconnected guiExtUsageHwc true
    keys.foldlM recountSlot true

variable {item : PoolItem} {token : ℕ}

/-- Releasing a slot and then clearing it is clearing it. -/
lemma modify_release {k : ℕ} {slot : ConsumerSlot} (hk : k = slot.buffer.key) :
    { (item.release slot.buffer).2 with
        mConsumerList := (item.release slot.buffer).2.mConsumerList.modify k fun slot => { slot with token := none } }
      = { item with mConsumerList := item.mConsumerList.modify k fun slot => { slot with token := none } } := by
  rcases item.release_cases slot.buffer with ⟨-, heq⟩ | ⟨-, heq⟩ | ⟨slot', hslot', -, heq⟩
  · rw [heq]
  · rw [heq]
  · rw [heq, PoolItem.mk.injEq]
    refine ⟨rfl, rfl, ext_valueFor fun k' => ?_, rfl, rfl, rfl⟩
    rw [valueFor_modify, valueFor_modify, valueFor_add, ← hk]
    split_ifs with hkey
    · rw [← hk] at hslot'
      rw [hkey, hslot']
      simp
    · rfl

lemma exec_clearSlot (h : item.SlotsForHwc) (k : ℕ) :
    (clearSlot token k).exec item
      = ((), { item with mConsumerList := item.mConsumerList.modify k (ConsumerSlot.clear token) }) := by
  have hsame : (∀ slot, item.mConsumerList.valueFor k = some slot → slot.clear token = slot) →
      item.mConsumerList.modify k (ConsumerSlot.clear token) = item.mConsumerList := fun hclear =>
    (modify_congr hclear).trans (modify_id _ k)
  unfold clearSlot
  rw [Accesses.exec_bind, Accesses.exec_read]
  cases hslot : item.mConsumerList.valueFor k with
  | none =>
    rw [hsame fun slot hk => absurd (hslot.symm.trans hk) (Option.some_ne_none slot).symm]
    rfl
  | some slot =>
    rw [Accesses.exec_ite]
    split_ifs with htoken
    · rw [Accesses.exec_bind, Accesses.exec_write, Accesses.exec_write, modify_release (h k slot hslot).1]
      rw [modify_congr (f := ConsumerSlot.clear token) fun slot' hslot' => ?_]
      cases hslot.symm.trans hslot'
      exact if_pos htoken
    · rw [hsame fun slot' hslot' => ?_]
      · rfl
      · cases hslot.symm.trans hslot'
        exact if_neg htoken

/-- A slot is held, by whom it may be, and is as `p` says. -/
def heldAt (item : PoolItem) (p : ConsumerSlot → Bool) (k : ℕ) : Bool :=
  (item.mConsumerList.valueFor k).any fun slot => slot.token.isSome && p slot

lemma setDisconnected_false (item : PoolItem) (usage : ℕ) :
    item.setDisconnected usage false
      = { item with
          gpuDisconnected := item.gpuDisconnected && !decide (usage = guiExtUsageGpu)
          hwcDisconnected := item.hwcDisconnected && !decide (usage = guiExtUsageHwc) } := by
  match usage with
  | 0 | 1 | n + 2 => simp [setDisconnected, guiExtUsageGpu, guiExtUsageHwc]

/-- The second loop, from the slots `ks` on. -/
lemma exec_recount (ks : List ℕ) (isDisconnect : Bool) (item : PoolItem) :
    (ks.foldlM recountSlot isDisconnect).exec item
      = (isDisconnect && ks.all (!item.heldAt (fun _ => true) ·),
        { item with
          gpuDisconnected := item.gpuDisconnected && ks.all (!item.heldAt (·.buffer.usage = guiExtUsageGpu) ·)
          hwcDisconnected := item.hwcDisconnected && ks.all (!item.heldAt (·.buffer.usage = guiExtUsageHwc) ·) }) := by
  induction ks generalizing isDisconnect item with
  | nil => simp
  | cons k ks ih =>
    rw [foldlM_cons, Accesses.exec_bind, ih]
    unfold recountSlot
    cases hslot : item.mConsumerList.valueFor k with
    | none => simp [heldAt, hslot]
    | some slot =>
      cases htoken : slot.token with
      | none => simp [heldAt, hslot, htoken]
      | some token => simp [heldAt, hslot, htoken, setDisconnected_false, Bool.and_assoc]

/-- The first loop. -/
lemma exec_clear (h : item.SlotsForHwc) :
    (item.mConsumerList.keys.foldlM (fun _ k => clearSlot token k) ()).exec item
      = ((), { item with mConsumerList := item.mConsumerList.mapValues (ConsumerSlot.clear token) }) := by
  have hloop : ∀ (ks : List ℕ) (slots : KeyedVector ConsumerSlot), { item with mConsumerList := slots }.SlotsForHwc →
      (ks.foldlM (fun _ k => clearSlot token k) ()).exec { item with mConsumerList := slots }
        = ((), { item with mConsumerList := ks.foldl (fun v k => v.modify k (ConsumerSlot.clear token)) slots }) := by
    intro ks
    induction ks with
    | nil => exact fun _ _ => rfl
    | cons k ks ih =>
      intro slots hslots
      rw [foldlM_cons, Accesses.exec_bind, exec_clearSlot hslots]
      refine ih _ fun k' slot hk' => ?_
      obtain ⟨slot', hslot', rfl⟩ := valueFor_modify_eq_some.mp hk'
      split_ifs
      · rw [ConsumerSlot.buffer_clear]
        exact hslots k' slot' hslot'
      · exact hslots k' slot' hslot'
  rw [← foldl_modify_keys]
  exact hloop _ _ h

lemma all_not_heldAt (item : PoolItem) (p : ConsumerSlot → Bool) :
    item.mConsumerList.keys.all (!item.heldAt p ·)
      = decide (¬ ∃ e ∈ item.mConsumerList.entries, e.2.token ≠ none ∧ p e.2 = true) := by
  rw [Bool.eq_iff_iff, all_eq_true, decide_eq_true_eq]
  constructor
  · rintro hall ⟨⟨k, slot⟩, hmem, hheld, hp⟩
    have hk := hall k (mem_keys.mpr ⟨slot, hmem⟩)
    simp [heldAt, valueFor_eq_some.mpr hmem, hp, Option.isSome_iff_ne_none.mpr hheld] at hk
  · intro hnone k _
    rw [Bool.not_eq_true', heldAt, Option.any_eq_false]
    intro slot hslot
    by_contra hheld
    obtain ⟨hsome, hp⟩ := Bool.and_eq_true_iff.mp (Bool.not_eq_false _ ▸ hheld)
    exact hnone ⟨(k, slot), valueFor_eq_some.mp hslot, Option.isSome_iff_ne_none.mp hsome, hp⟩

lemma exec_recount_keys (hgpu : item.gpuDisconnected = true) (hhwc : item.hwcDisconnected = true)
    (connected : List Consumer) :
    (item.mConsumerList.keys.foldlM recountSlot true).exec item
      = (decide (Tracked.NoneHeld ⟨item, connected⟩),
        { item with
          gpuDisconnected := decide (¬ item.IsHeldFor guiExtUsageGpu)
          hwcDisconnected := decide (¬ item.IsHeldFor guiExtUsageHwc) }) := by
  rw [exec_recount]
  simp only [all_not_heldAt, hgpu, hhwc, Bool.true_and, decide_eq_true_eq, and_true]
  refine Prod.ext ?_ rfl
  rw [decide_eq_decide, Tracked.NoneHeld]
  simp only [not_exists, not_and, ne_eq, not_not]

/-- **The observer with nobody in between.** -/
lemma exec_observe (h : item.SlotsForHwc) (hholds : item.Holds token) (connected : List Consumer) :
    (observe token).exec item = (decide (Tracked.NoneHeld ⟨item.die token, connected⟩), item.die token) := by
  have hkeys : item.mConsumerList.keys ≠ [] := by
    obtain ⟨e, he, -⟩ := hholds
    exact ne_nil_of_mem (mem_map_of_mem he)
  let item' : PoolItem :=
    { item with
      mConsumerList := item.mConsumerList.mapValues (ConsumerSlot.clear token)
      gpuDisconnected := true
      hwcDisconnected := true }
  have hobserve : (observe token).exec item = (item'.mConsumerList.keys.foldlM recountSlot true).exec item' := by
    unfold observe
    rw [Accesses.exec_bind, Accesses.exec_read]
    rw [if_neg hkeys]
    simp only [Accesses.exec_bind, exec_clear h, Accesses.exec_write]
    rw [← keys_mapValues item.mConsumerList (ConsumerSlot.clear token)]
    rfl
  rw [hobserve, exec_recount_keys rfl rfl connected, PoolItem.die, if_pos hholds]
  rfl

end PoolItem

/-! ## The calls of the pool -/

/-- The value under a number is changed, if there is one. -/
def PoolState.update (s : PoolState) (poolId : ℕ) (f : Tracked → Tracked) : PoolState :=
  match s.mPoolList.valueFor poolId with
  | none => s
  | some e => s.store poolId (f e)

namespace PoolState

variable {s : PoolState} {poolId : ℕ} {e : Tracked}

lemma valueFor_store : (s.store poolId e).mPoolList.valueFor poolId = some e := by
  rw [store, valueFor_add, if_pos rfl]

lemma store_store (e' : Tracked) : (s.store poolId e).store poolId e' = s.store poolId e' := by
  simp only [store, add_add]

lemma store_self (h : s.mPoolList.valueFor poolId = some e) : s.store poolId e = s := by
  rw [store, add_valueFor h]

lemma update_of_none (h : s.mPoolList.valueFor poolId = none) (f : Tracked → Tracked) : s.update poolId f = s := by
  rw [update, h]

lemma update_of_some (h : s.mPoolList.valueFor poolId = some e) (f : Tracked → Tracked) :
    s.update poolId f = s.store poolId (f e) := by
  rw [update, h]

end PoolState

/-- The pool.  `badText` is a ghost: a message was written with a text that is not there. -/
structure SharedPool where
  pool : PoolState
  badText : Bool

namespace SharedPool

def start : SharedPool := ⟨.start, false⟩

def onPool (f : PoolState → PoolState) : Accesses SharedPool Unit := .write fun s => { s with pool := f s.pool }

/-- A message with the texts of a usage and a type. -/
def log (usage type : ℕ) : Accesses SharedPool Unit :=
  .write fun s => { s with badText := s.badText || !decide (HasTexts usage type) }

/-- The item with a number. -/
def itemOf (poolId : ℕ) : Part SharedPool PoolItem where
  get s := (s.pool.mPoolList.valueFor poolId).map Tracked.item
  set s item := { s with pool := s.pool.update poolId fun e => { e with item } }
  get_set s item hsome := by
    obtain ⟨_, hget⟩ := Option.isSome_iff_exists.mp hsome
    obtain ⟨e, he, -⟩ := Option.map_eq_some_iff.mp hget
    simp only [PoolState.update_of_some he, PoolState.valueFor_store, Option.map_some]
  set_set s item item' := by
    cases he : s.pool.mPoolList.valueFor poolId with
    | none => simp only [PoolState.update_of_none he]
    | some e =>
      simp only [PoolState.update_of_some he, PoolState.update_of_some PoolState.valueFor_store, PoolState.store_store]
  set_get s item hget := by
    obtain ⟨e, he, rfl⟩ := Option.map_eq_some_iff.mp hget
    simp only [PoolState.update_of_some he, PoolState.store_self he]

/-- The observer of a consumer, with the listener that removes the item. -/
def consumerObserver (token poolId : ℕ) : Accesses SharedPool Unit := do
  match ← (PoolItem.observe token).on (itemOf poolId) with
  | some true => onPool (·.removePoolItemLocked poolId)
  | _ => return

/-- A round of the loop in `ProducerDeathObserver::binderDied`.  An item is found by its number; in the source it is
found by its place, which is the same while no item comes or goes. -/
def producerRound (token poolId : ℕ) : Accesses SharedPool Unit := do
  match ← .read fun s => s.pool.mPoolList.valueFor poolId with
  | none => return
  | some e =>
    if e.item.mProducerToken = some token then
      onPool (·.update poolId Tracked.freeProducer)
      onPool (·.removePoolItemLocked poolId)

def producerObserver (token : ℕ) : Accesses SharedPool Unit := do
  let ids ← .read fun s => (s.pool.mPoolList.entries.map Prod.fst).reverse
  ids.foldlM (fun _ poolId => producerRound token poolId) ()

def code : PoolAct → Accesses SharedPool Unit
  | .configDisplay type enable w h bufNum => onPool (·.configDisplay type enable w h bufNum)
  | .alloc token grallocUsage => onPool (·.alloc token grallocUsage)
  | .free poolId => onPool (·.free poolId)
  | .acquire token poolId b => do
    onPool (·.acquire token poolId b)
    log b.usage b.type
  | .release poolId b => do
    onPool (·.release poolId b)
    log b.usage b.type
  | .disconnect poolId c => do
    onPool (·.disconnect poolId c)
    log c.usage c.type
  | .producerDied token => producerObserver token
  | .consumerDied token poolId => consumerObserver token poolId

/-- A client that dies is not connected any more; its observer is called if a slot keeps it. -/
def call (s : SharedPool) : PoolAct → Option (SharedPool × Accesses SharedPool Unit)
  | .consumerDied token poolId =>
    some ({ s with pool := s.pool.update poolId fun e =>
        { e with connected := e.connected.filter fun c => c.token ≠ token } },
      if (s.pool.mPoolList.valueFor poolId).any fun e => e.item.Holds token then code (.consumerDied token poolId)
      else pure ())
  | act => some (s, code act)

structure Ok (s : SharedPool) : Prop where
  items : s.pool.Ok
  texts : s.badText = false

def Regular (s : SharedPool) (act : PoolAct) : Prop := s.pool.Regular act

instance (s : SharedPool) : DecidablePred s.Regular := fun act => inferInstanceAs (Decidable (s.pool.Regular act))

/-! ## Calls with nobody in between -/

variable {s : SharedPool} {token poolId : ℕ}

@[simp] lemma exec_onPool (f : PoolState → PoolState) : (onPool f).exec s = ((), { s with pool := f s.pool }) := (rfl)

lemma exec_producerRound :
    (producerRound token poolId).exec s = ((), { s with pool := s.pool.producerDiedAt token poolId }) := by
  unfold producerRound PoolState.producerDiedAt
  rw [Accesses.exec_bind, Accesses.exec_read]
  cases he : s.pool.mPoolList.valueFor poolId with
  | none => rfl
  | some e =>
    dsimp only
    split_ifs
    · simp [PoolState.update_of_some he]
    · rfl

lemma exec_producerObserver :
    (producerObserver token).exec s = ((), { s with pool := s.pool.producerDied token }) := by
  have hloop : ∀ (ids : List ℕ) (s : SharedPool), (ids.foldlM (fun _ poolId => producerRound token poolId) ()).exec s
      = ((), { s with pool := ids.foldl (PoolState.producerDiedAt token) s.pool }) := by
    intro ids
    induction ids with
    | nil => exact fun _ => rfl
    | cons poolId ids ih =>
      intro s
      rw [foldlM_cons, Accesses.exec_bind, exec_producerRound, ih]
      rfl
  exact hloop _ s

lemma exec_log {usage type : ℕ} (h : HasTexts usage type) : (log usage type).exec s = ((), s) := by
  simp [log, h]

lemma exec_consumerObserver {e : Tracked} (he : s.pool.mPoolList.valueFor poolId = some e) (hslots : e.item.SlotsForHwc)
    (hholds : e.item.Holds token) :
    (consumerObserver token poolId).exec s
      = ((), { s with pool :=
          if Tracked.NoneHeld { e with item := e.item.die token } then
            (s.pool.store poolId { e with item := e.item.die token }).removePoolItemLocked poolId
          else s.pool.store poolId { e with item := e.item.die token } }) := by
  have hget : (itemOf poolId).get s = some e.item := by
    simp [itemOf, he]
  unfold consumerObserver
  rw [Accesses.exec_bind, Accesses.exec_on _ hget, PoolItem.exec_observe hslots hholds e.connected]
  simp only [itemOf, PoolState.update_of_some he]
  split_ifs with hnone
  · simp [decide_eq_true hnone]
  · simp [decide_eq_false hnone]

lemma whole_consumerDied (h : s.pool.Inv) :
    Calls.whole call s (.consumerDied token poolId) = some { s with pool := s.pool.consumerDied token poolId } := by
  simp only [Calls.whole, call, Option.map_some, PoolState.consumerDied]
  cases he : s.pool.mPoolList.valueFor poolId with
  | none => simp [PoolState.update_of_none he]
  | some e =>
    simp only [PoolState.update_of_some he, Option.any_some, decide_eq_true_eq]
    by_cases hholds : e.item.Holds token
    · have hslots := (h.items poolId e he).1.slots
      rw [if_pos hholds, code,
        exec_consumerObserver (e := { e with connected := e.connected.filter fun c => c.token ≠ token })
          PoolState.valueFor_store hslots hholds]
      simp only [PoolState.store_store, hholds, true_and]
      rfl
    · rw [if_neg hholds, if_neg fun hand => hholds hand.1, Tracked.die, PoolItem.die_of_not_holds hholds]
      rfl

/-- **Calls with nobody in between** are the steps of the pool. -/
lemma whole_call (h : s.pool.Inv) {act : PoolAct} (hreg : s.Regular act) :
    Calls.whole call s act = some { s with pool := s.pool.apply act } := by
  cases act with
  | configDisplay | alloc | free => rfl
  | acquire token poolId b | release poolId b =>
    simp only [Calls.whole, call, code, Option.map_some, Accesses.exec_bind, exec_onPool, exec_log hreg, PoolState.apply]
  | disconnect poolId c =>
    simp only [Calls.whole, call, code, Option.map_some, Accesses.exec_bind, exec_onPool, exec_log hreg.1,
      PoolState.apply]
  | producerDied token => exact congrArg (fun r => some (Prod.snd r)) exec_producerObserver
  | consumerDied token poolId => exact whole_consumerDied h

/-- **When items go.**  In every run in which no call begins while another one is under way and every call is regular,
whenever no call is under way an item is gone exactly if its producer has freed it or died and no consumer is connected
to it, and no text was looked up that is not there. -/
theorem items_removed_exactly (acts : List (CallAct PoolAct))
    (hacts : StepsMeet (Calls.step call) (Calls.Alone Regular) (Calls.start start) acts) :
    Along (Calls.step call) (fun s => s.Quiet → s.shared.Ok) (Calls.start start) acts := by
  refine Calls.along_quiet (I := fun s => s.pool.Inv ∧ s.badText = false) (fun s act s' h hreg hs' => ?_)
    (fun s h => ⟨h.1.ok, h.2⟩) ⟨PoolState.start_inv, rfl⟩ hacts
  rw [whole_call h.1 hreg] at hs'
  cases hs'
  exact ⟨PoolState.step_inv h.1 hreg rfl, h.2⟩

/-- Two consumers, of which one dies with a buffer and the other releases its own and disconnects; then the producer
dies. -/
def poolRun : List (CallAct PoolAct) :=
  callAlone 0 1 (.alloc 9 0x800) ++ callAlone 1 2 (.acquire 1 1 ⟨1, 0, 0⟩) ++ callAlone 2 2 (.acquire 2 1 ⟨1, 0, 1⟩)
    ++ callAlone 3 12 (.consumerDied 2 1) ++ callAlone 4 2 (.release 1 ⟨1, 0, 0⟩)
    ++ callAlone 5 2 (.disconnect 1 ⟨1, 1, 0⟩) ++ callAlone 6 4 (.producerDied 9)

theorem items_removed_exactly_poolRun :
    (run (Calls.step call) (Calls.start start) poolRun).map
        (fun s => (s.shared.pool.mPoolList.size, s.shared.pool.removed.map Tracked.connected)) = some (0, [[]])
      ∧ StepsMeet (Calls.step call) (Calls.Alone Regular) (Calls.start start) poolRun
      ∧ Along (Calls.step call) (fun s => s.Quiet → s.shared.Ok) (Calls.start start) poolRun := by
  have hacts : StepsMeet (Calls.step call) (Calls.Alone Regular) (Calls.start start) poolRun := by decide +kernel
  exact ⟨by decide +kernel, hacts, items_removed_exactly poolRun hacts⟩

/-- The consumer for the primary display disconnects while the one for the other display is connected. -/
def twoDisplaysRun : List (CallAct PoolAct) :=
  callAlone 0 1 (.configDisplay 1 true 1920 1080 3) ++ callAlone 1 1 (.alloc 9 0x800)
    ++ callAlone 2 2 (.acquire 1 1 ⟨1, 0, 0⟩) ++ callAlone 3 2 (.acquire 2 1 ⟨1, 1, 0⟩)
    ++ callAlone 4 2 (.release 1 ⟨1, 0, 0⟩) ++ callAlone 5 2 (.disconnect 1 ⟨1, 1, 0⟩) ++ callAlone 6 1 (.free 1)

/-- The observer of a client that died sees that another one has a slot; before it clears the flag for it, that one
releases the slot and disconnects. -/
def lateFlagRun : List (CallAct PoolAct) :=
  callAlone 0 1 (.alloc 9 0x800) ++ callAlone 1 2 (.acquire 1 1 ⟨1, 0, 0⟩) ++ callAlone 2 2 (.acquire 2 1 ⟨1, 0, 1⟩)
    ++ callAlone 3 9 (.consumerDied 2 1) ++ callAlone 4 2 (.release 1 ⟨1, 0, 0⟩)
    ++ callAlone 5 2 (.disconnect 1 ⟨1, 1, 0⟩) ++ List.replicate 3 (.access 3) ++ callAlone 6 1 (.free 1)

/-- **The defects**: an item is gone while the consumer for the other display is connected; an item stays though all its
parties are gone; and a display type without a text leaves the array of texts. -/
theorem item_removed_while_connected :
    (∃ s ∈ run (Calls.step call) (Calls.start start) twoDisplaysRun, s.Quiet
      ∧ [⟨2, 1, 1⟩] ∈ s.shared.pool.removed.map Tracked.connected ∧ ¬ s.shared.Ok)
    ∧ (∃ s ∈ run (Calls.step call) (Calls.start start) lateFlagRun, s.Quiet
      ∧ (∃ e ∈ s.shared.pool.mPoolList.valueFor 1, e.Over) ∧ ¬ s.shared.Ok)
    ∧ ∃ s ∈ run (Calls.step call) (Calls.start start) (callAlone 0 2 (.acquire 1 1 ⟨1, 3, 0⟩)), s.Quiet
      ∧ s.shared.badText = true ∧ ¬ s.shared.Ok := by
  have hgone : ∃ s ∈ run (Calls.step call) (Calls.start start) twoDisplaysRun, s.Quiet
      ∧ [⟨2, 1, 1⟩] ∈ s.shared.pool.removed.map Tracked.connected := by decide +kernel
  have hstays : ∃ s ∈ run (Calls.step call) (Calls.start start) lateFlagRun, s.Quiet
      ∧ ∃ e ∈ s.shared.pool.mPoolList.valueFor 1, e.Over := by decide +kernel
  have htext : ∃ s ∈ run (Calls.step call) (Calls.start start) (callAlone 0 2 (.acquire 1 1 ⟨1, 3, 0⟩)), s.Quiet
      ∧ s.shared.badText = true := by decide +kernel
  refine ⟨?_, ?_, ?_⟩
  · obtain ⟨s, hs, hquiet, hmem⟩ := hgone
    refine ⟨s, hs, hquiet, hmem, fun hok => ?_⟩
    obtain ⟨e, he, heq⟩ := mem_map.mp hmem
    exact absurd (heq.symm.trans (hok.items.removed_over e he).2) (cons_ne_nil _ _)
  · obtain ⟨s, hs, hquiet, e, he, hover⟩ := hstays
    exact ⟨s, hs, hquiet, ⟨e, he, hover⟩, fun hok => hok.items.over_removed 1 e he hover⟩
  · obtain ⟨s, hs, hquiet, hbad⟩ := htext
    exact ⟨s, hs, hquiet, hbad, fun hok => Bool.false_ne_true (hok.texts.symm.trans hbad)⟩

end SharedPool

end Hal
