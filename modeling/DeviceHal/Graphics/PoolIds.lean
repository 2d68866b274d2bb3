import DeviceHal.Core.While
import DeviceHal.Graphics.Pool

/-!
# The numbers of pool items

`getPoolId` goes round the numbers from 1 to 10, starting behind the one it gave out last, until it comes to a number
that no item has.  Its cursor stands for the number 10 in two ways: as 0 inside the loop and as 10 between two calls.
An allocation may fail after it was given a number, which leaves the cursor where it is.

The pool is that of `Graphics.Pool`, with the allocations that fail added to what can happen to it.

* `searchEnds_getPoolId` — where a number is free the loop ends, with the number that `getPoolId` computes in ten
  rounds.
* `Confined` — what no operation changes: numbers are from 1 to 10.  That there are at most ten items follows, since no
  two have the same number.
* **`pool_ids_ok`** — in every state of every history.
-/

namespace Hal

open List Option

/-- What happens to the pool: an operation, an allocation that fails behind `getPoolId`, or `removePoolItem` for any
number. -/
inductive PoolEvent where
  | act (act : PoolAct)
  | allocFails
  | removePoolItem (poolId : ℕ)

namespace PoolState

/-- `item != NULL`, the test of the loop of `getPoolId`. -/
def Taken (s : PoolState) (cursor : ℕ) : Prop := s.mPoolList.valueFor (poolIdOf cursor) ≠ none

instance (s : PoolState) : DecidablePred s.Taken := fun _ => inferInstanceAs (Decidable (_ ≠ _))

/-- The loop of `getPoolId` ends, with this number. -/
def SearchEnds (s : PoolState) (id : ℕ) : Prop :=
  ∃ cursor, EndsIn s.Taken nextPoolId (nextPoolId s.mPoolId) cursor ∧ poolIdOf cursor = id

/-- `alloc` up to a `prepareBuffer` that fails. -/
def allocFails (s : PoolState) : PoolState :=
  if s.mPoolList.size ≥ maxAllocSize then s
  else
    { s with
      mPoolId := s.getPoolId
      mDisplayList :=
        if s.mPoolList.size = 0 then s.mDisplayList.add hwcDisplayPrimary maxHwcDequeuedNum else s.mDisplayList }

def happen (s : PoolState) : PoolEvent → PoolState
  | .act act => s.apply act
  | .allocFails => s.allocFails
  | .removePoolItem poolId => s.removePoolItemLocked poolId

def stepEvent (s : PoolState) (ev : PoolEvent) : Option PoolState := some (s.happen ev)

/-- What is asked of the numbers at any time.  `alloc` calls `getPoolId` if there are fewer than ten items. -/
structure IdsOk (s : PoolState) : Prop where
  distinct : (s.mPoolList.entries.map Prod.fst).Nodup
  range : ∀ id ∈ s.mPoolList.entries.map Prod.fst, 1 ≤ id ∧ id ≤ maxAllocSize
  size_le : s.mPoolList.size ≤ maxAllocSize
  search : s.mPoolList.size < maxAllocSize →
    s.SearchEnds s.getPoolId ∧ 1 ≤ s.getPoolId ∧ s.getPoolId ≤ maxAllocSize
      ∧ s.getPoolId ∉ s.mPoolList.entries.map Prod.fst

/-! ## The search -/

lemma poolIdOf_nextPoolId (cursor : ℕ) :
    1 ≤ poolIdOf (nextPoolId cursor) ∧ poolIdOf (nextPoolId cursor) ≤ maxAllocSize := by
  have hlt : nextPoolId cursor < maxAllocSize := Nat.mod_lt _ (by decide)
  unfold poolIdOf
  split_ifs with hzero
  · decide
  · omega

lemma getPoolIdFrom_range (used : ℕ → Bool) (fuel cursor : ℕ) :
    1 ≤ getPoolIdFrom used (fuel + 1) cursor ∧ getPoolIdFrom used (fuel + 1) cursor ≤ maxAllocSize := by
  induction fuel generalizing cursor with
  | zero =>
    simp only [getPoolIdFrom, ite_self]
    exact poolIdOf_nextPoolId cursor
  | succ fuel ih =>
    rw [getPoolIdFrom]
    split_ifs
    · exact ih (nextPoolId cursor)
    · exact poolIdOf_nextPoolId cursor

variable {s : PoolState}

/-- **If the number found in some rounds is free, the loop ends with it.** -/
lemma endsIn_getPoolIdFrom (fuel cursor : ℕ)
    (hfree : s.mPoolList.valueFor (getPoolIdFrom (fun id => (s.mPoolList.valueFor id).isSome) (fuel + 1) cursor)
      = none) :
    ∃ c, EndsIn s.Taken nextPoolId (nextPoolId cursor) c
      ∧ poolIdOf c = getPoolIdFrom (fun id => (s.mPoolList.valueFor id).isSome) (fuel + 1) cursor := by
  induction fuel generalizing cursor with
  | zero =>
    simp only [getPoolIdFrom, ite_self] at hfree ⊢
    exact ⟨_, endsIn_of_not fun htaken => htaken hfree, rfl⟩
  | succ fuel ih =>
    rw [getPoolIdFrom] at hfree ⊢
    split_ifs at hfree ⊢ with hused
    · obtain ⟨c, hends, hc⟩ := ih (nextPoolId cursor) hfree
      exact ⟨c, endsIn_of_body (isSome_iff_ne_none.mp hused) hends, hc⟩
    · exact ⟨_, endsIn_of_not fun htaken => htaken hfree, rfl⟩

lemma searchEnds_getPoolId (hsize : s.mPoolList.size < maxAllocSize) : s.SearchEnds s.getPoolId :=
  endsIn_getPoolIdFrom 9 s.mPoolId (getPoolIdFrom_unused hsize s.mPoolId)

lemma mem_ids {id : ℕ} : id ∈ s.mPoolList.entries.map Prod.fst ↔ s.mPoolList.valueFor id ≠ none := by
  rw [← isSome_iff_ne_none, isSome_iff_exists]
  simp [SortedVector.valueFor_eq_some]

/-! ## What the operations do to the numbers -/

def Confined (s : PoolState) : Prop := ∀ id, s.mPoolList.valueFor id ≠ none → 1 ≤ id ∧ id ≤ maxAllocSize

/-- No item has a number that none had before. -/
def NoNewIds (s s' : PoolState) : Prop := ∀ id, s'.mPoolList.valueFor id ≠ none → s.mPoolList.valueFor id ≠ none

variable {s' : PoolState}

lemma NoNewIds.confined (h : s.NoNewIds s') (hs : s.Confined) : s'.Confined :=
  fun id hid => hs id (h id hid)

/-- Every item comes from one with the same number, in a way that `R` allows. -/
def ItemsFrom (R : Tracked → Tracked → Prop) (s s' : PoolState) : Prop :=
  ∀ id e', s'.mPoolList.valueFor id = some e' → ∃ e, s.mPoolList.valueFor id = some e ∧ R e e'

lemma ItemsFrom.noNewIds {R : Tracked → Tracked → Prop} (h : ItemsFrom R s s') : s.NoNewIds s' := by
  intro id hid
  obtain ⟨e', he'⟩ := ne_none_iff_exists'.mp hid
  obtain ⟨e, he, -⟩ := h id e' he'
  exact he ▸ some_ne_none e

/-- What `R` has to allow: whatever an operation does to an item. -/
structure ItemRule (R : Tracked → Tracked → Prop) : Prop where
  refl : ∀ e, R e e
  trans : ∀ {e e' e''}, R e e' → R e' e'' → R e e''
  freeProducer : ∀ e, R e e.freeProducer
  acquire : ∀ e token b, R e (e.acquire token b)
  release : ∀ e b, R e (e.release b)
  disconnect : ∀ e c, R e (e.disconnect c)
  die : ∀ e token, R e (e.die token)

section ItemRule

variable {R : Tracked → Tracked → Prop}

lemma ItemRule.itemsFrom_self (hR : ItemRule R) (s : PoolState) : ItemsFrom R s s := fun _ e he => ⟨e, he, hR.refl e⟩

variable {s : PoolState}

lemma ItemRule.itemsFrom_trans (hR : ItemRule R) {s' s'' : PoolState} (h : ItemsFrom R s s')
    (h' : ItemsFrom R s' s'') : ItemsFrom R s s'' := by
  intro id e'' he''
  obtain ⟨e', he', hR'⟩ := h' id e'' he''
  obtain ⟨e, he, hR''⟩ := h id e' he'
  exact ⟨e, he, hR.trans hR'' hR'⟩

variable {poolId : ℕ}

lemma ItemRule.itemsFrom_store (hR : ItemRule R) {e e' : Tracked}
    (he : s.mPoolList.valueFor poolId = some e) (hee' : R e e') : ItemsFrom R s (s.store poolId e') := by
  intro id e'' hid
  rw [store, SortedVector.valueFor_add] at hid
  split_ifs at hid with hkey
  · cases hid
    exact ⟨e, hkey ▸ he, hee'⟩
  · exact ⟨e'', hid, hR.refl e''⟩

lemma ItemRule.itemsFrom_removePoolItemLocked (hR : ItemRule R) (s : PoolState) (poolId : ℕ) :
    ItemsFrom R s (s.removePoolItemLocked poolId) := by
  intro id e hid
  refine ⟨e, ?_, hR.refl e⟩
  unfold removePoolItemLocked at hid
  split at hid
  · exact hid
  · split_ifs at hid
    · rw [SortedVector.valueFor_removeItem] at hid
      split_ifs at hid
      exact hid
    · exact hid

lemma ItemRule.itemsFrom_settle (hR : ItemRule R) {e e' : Tracked}
    (he : s.mPoolList.valueFor poolId = some e) (hee' : R e e') :
    ItemsFrom R s ((s.store poolId e').removePoolItemLocked poolId) :=
  hR.itemsFrom_trans (hR.itemsFrom_store he hee') (hR.itemsFrom_removePoolItemLocked _ poolId)

lemma ItemRule.itemsFrom_of_item (hR : ItemRule R) {op : Tracked → PoolState}
    (h : ∀ e, s.mPoolList.valueFor poolId = some e → ItemsFrom R s (op e)) :
    ItemsFrom R s (match s.mPoolList.valueFor poolId with | none => s | some e => op e) := by
  cases he : s.mPoolList.valueFor poolId with
  | none => exact hR.itemsFrom_self s
  | some e => exact h e he

lemma ItemRule.itemsFrom_producerDied (hR : ItemRule R) (s : PoolState) (token : ℕ) :
    ItemsFrom R s (s.producerDied token) := by
  refine List.foldlRecOn _ _ (hR.itemsFrom_self s) fun s' hs' poolId _ => hR.itemsFrom_trans hs' ?_
  refine hR.itemsFrom_of_item fun e he => ?_
  split_ifs
  · exact hR.itemsFrom_settle he (hR.freeProducer e)
  · exact hR.itemsFrom_self s'

lemma ItemRule.itemsFrom_consumerDied (hR : ItemRule R) (s : PoolState) (token poolId : ℕ) :
    ItemsFrom R s (s.consumerDied token poolId) := by
  refine hR.itemsFrom_of_item fun e he => ?_
  split_ifs
  · exact hR.itemsFrom_settle he (hR.die e token)
  · exact hR.itemsFrom_store he (hR.die e token)

lemma ItemRule.itemsFrom_configDisplay (hR : ItemRule R) (s : PoolState) (type : ℕ) (enable : Bool)
    (w height bufNum : ℕ) : ItemsFrom R s (s.configDisplay type enable w height bufNum) := by
  unfold configDisplay
  split_ifs
  · cases s.mDisplayList.valueFor type <;> exact hR.itemsFrom_self s
  · exact hR.itemsFrom_self s

/-- **No operation but `alloc` makes an item.** -/
lemma ItemRule.itemsFrom_apply (hR : ItemRule R) (s : PoolState) {act : PoolAct}
    (hact : ∀ token grallocUsage, act ≠ .alloc token grallocUsage) : ItemsFrom R s (s.apply act) := by
  cases act with
  | configDisplay type enable w height bufNum => exact hR.itemsFrom_configDisplay s type enable w height bufNum
  | alloc token grallocUsage => exact absurd rfl (hact token grallocUsage)
  | free poolId => exact hR.itemsFrom_of_item fun e he => hR.itemsFrom_settle he (hR.freeProducer e)
  | acquire token poolId b => exact hR.itemsFrom_of_item fun e he => hR.itemsFrom_store he (hR.acquire e token b)
  | release poolId b => exact hR.itemsFrom_of_item fun e he => hR.itemsFrom_store he (hR.release e b)
  | disconnect poolId c => exact hR.itemsFrom_of_item fun e he => hR.itemsFrom_settle he (hR.disconnect e c)
  | producerDied token => exact hR.itemsFrom_producerDied s token
  | consumerDied token poolId => exact hR.itemsFrom_consumerDied s token poolId

end ItemRule

lemma itemRule_true : ItemRule fun _ _ => True := by
  constructor <;> intros <;> trivial

/-- **The one new number** is the one that the search has found. -/
lemma Confined.alloc (h : s.Confined) (token grallocUsage : ℕ) : (s.alloc token grallocUsage).Confined := by
  by_cases hfull : s.mPoolList.size ≥ maxAllocSize
  · simpa only [PoolState.alloc, hfull, if_true] using h
  · simp only [PoolState.alloc, hfull, if_false]
    intro id hid
    rw [SortedVector.valueFor_add] at hid
    by_cases hkey : id = s.getPoolId
    · rw [hkey]
      exact getPoolIdFrom_range _ 9 s.mPoolId
    · rw [if_neg hkey] at hid
      exact h id hid

lemma Confined.step {ev : PoolEvent} (h : s.Confined) (hs' : s.stepEvent ev = some s') : s'.Confined := by
  cases hs'
  cases ev with
  | act act =>
    by_cases hact : ∀ token grallocUsage, act ≠ .alloc token grallocUsage
    · exact (itemRule_true.itemsFrom_apply s hact).noNewIds.confined h
    · simp only [not_forall, not_not] at hact
      obtain ⟨token, grallocUsage, rfl⟩ := hact
      exact h.alloc token grallocUsage
  | allocFails =>
    show s.allocFails.Confined
    unfold allocFails
    split_ifs <;> exact h
  | removePoolItem poolId => exact (itemRule_true.itemsFrom_removePoolItemLocked s poolId).noNewIds.confined h

/-! ## Histories -/

lemma Confined.size_le (h : s.Confined) : s.mPoolList.size ≤ maxAllocSize := by
  have hsubset : s.mPoolList.entries.map Prod.fst ⊆ (List.range maxAllocSize).map (· + 1) := by
    intro id hid
    have hrange := h id (mem_ids.mp hid)
    exact mem_map.mpr ⟨id - 1, mem_range.mpr (by omega), by omega⟩
  have hlength := (subperm_of_subset s.mPoolList.keys_nodup hsubset).length_le
  rwa [SortedVector.keys, length_map, length_map, length_range] at hlength

lemma Confined.ok (h : s.Confined) : s.IdsOk where
  distinct := s.mPoolList.keys_nodup
  range id hid := h id (mem_ids.mp hid)
  size_le := h.size_le
  search hroom := by
    have hrange := getPoolIdFrom_range (fun id => (s.mPoolList.valueFor id).isSome) 9 s.mPoolId
    refine ⟨searchEnds_getPoolId hroom, hrange.1, hrange.2, fun hmem => ?_⟩
    exact mem_ids.mp hmem (getPoolIdFrom_unused hroom s.mPoolId)

/-- **The numbers of the items.**  In every state of every history of the pool, allocations that fail included, the
items have different numbers from 1 to 10 and are at most ten; and whenever `alloc` asks for a number the search ends,
with a number from 1 to 10 that no item has. -/
theorem pool_ids_ok (events : List PoolEvent) : Along stepEvent IdsOk start events := by
  refine along_of_stepsMeet (I := Confined) (C := fun _ _ => True) (fun _ _ _ h _ hs' => h.step hs')
    (fun _ h => h.ok) ?_ (stepsMeet_of_forall fun _ _ => trivial)
  exact fun id hid => absurd (SortedVector.valueFor_empty id) hid

/-- Nine allocations and one that fails take the cursor round; the tenth item then gets the number 1 back, which was
freed, and the search has come by 10 as 0. -/
example :
    (run stepEvent start
        (List.replicate 9 (.act (.alloc 9 0))
          ++ [.allocFails, .act (.free 1), .act (.alloc 9 0), .act (.alloc 9 0)])).map
      (fun s => (s.mPoolId, s.mPoolList.entries.map Prod.fst)) = some (10, [1, 2, 3, 4, 5, 6, 7, 8, 9, 10]) := by
  decide +kernel

end PoolState

end Hal
