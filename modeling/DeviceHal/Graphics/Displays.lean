import DeviceHal.Graphics.PoolIds

/-!
# The displays of the pool

`configDisplay` enables, changes and disables a display; `alloc` puts the primary display in the list, with the size
that the composer reports, whenever the pool is empty.  A hardware-composer item gets a buffer queue for every display
in the list at that time.

**The defect.**  `configDisplay` means to spare the primary display: it removes an entry if the type is another one, and
then removes it anyway.

Of a display `Graphics.Pool` has the number of its buffers.  Here is the entry in full, next to that pool.

* `DisplayPool` — the pool with its displays, the history, and whether there has been an entry of the primary display.
* `lastConfig` — the last configuration in a history, if it enabled the display.
* `Inv.agrees` — the pool of `Graphics.Pool` has the same displays.
* **`displays_right_iff`** — the displays are right all along any history **iff** the primary display is never disabled
  while it is in the list.
-/

namespace Hal

open Option SortedVector

structure DispInfo where
  type : ℕ
  w : ℕ
  h : ℕ
  bufNum : ℕ

def Disables (enable : Bool) (w h bufNum : ℕ) : Prop := enable = false ∨ w = 0 ∨ h = 0 ∨ bufNum = 0

instance (enable : Bool) (w h bufNum : ℕ) : Decidable (Disables enable w h bufNum) :=
  inferInstanceAs (Decidable (_ ∨ _ ∨ _ ∨ _))

/-- `configDisplay`, what it does to the list. -/
def configDisplayList (mDisplayList : KeyedVector DispInfo) (type : ℕ) (enable : Bool) (w h bufNum : ℕ) :
    KeyedVector DispInfo :=
  if Disables enable w h bufNum then
    match mDisplayList.valueFor type with
    | none => mDisplayList
    | some _ => (if type ≠ hwcDisplayPrimary then mDisplayList.removeItem type else mDisplayList).removeItem type
  else mDisplayList.add type ⟨type, w, h, bufNum⟩

/-- An event, with what `getDisplayInfo` says if it is asked. -/
structure DisplayEvent where
  event : PoolEvent
  dinfo : ℕ × ℕ

/-- What an event configures the display as, if it does: `some none` disables it. -/
def configFor (type : ℕ) : PoolEvent → Option (Option DispInfo)
  | .act (.configDisplay type' enable w h bufNum) =>
    if type' = type then some (if Disables enable w h bufNum then none else some ⟨type, w, h, bufNum⟩) else none
  | _ => none

/-- The last configuration in a history, the newest event first, if it enabled the display. -/
def lastConfig (type : ℕ) : List PoolEvent → Option DispInfo
  | [] => none
  | ev :: older => (configFor type ev).getD (lastConfig type older)

/-- `GuiExtPool` with its displays.  Ghosts: the history, the newest event first, and whether there has been an entry of
the primary display. -/
structure DisplayPool where
  pool : PoolState
  mDisplayList : KeyedVector DispInfo
  history : List PoolEvent
  seeded : Bool

namespace DisplayPool

def seedDisplays (s : DisplayPool) (dinfo : ℕ × ℕ) : KeyedVector DispInfo :=
  if s.pool.mPoolList.size ≥ maxAllocSize then s.mDisplayList
  else if s.pool.mPoolList.size = 0 then
    s.mDisplayList.add hwcDisplayPrimary ⟨0, dinfo.1, dinfo.2, maxHwcDequeuedNum⟩
  else s.mDisplayList

def displaysAfter (s : DisplayPool) (ev : DisplayEvent) : KeyedVector DispInfo :=
  match ev.event with
  | .act (.configDisplay type enable w h bufNum) => configDisplayList s.mDisplayList type enable w h bufNum
  | .act (.alloc _ _) => s.seedDisplays ev.dinfo
  | .allocFails => s.seedDisplays ev.dinfo
  | _ => s.mDisplayList

def next (s : DisplayPool) (ev : DisplayEvent) : DisplayPool where
  pool := s.pool.happen ev.event
  mDisplayList := s.displaysAfter ev
  history := ev.event :: s.history
  seeded := s.seeded || ((s.displaysAfter ev).valueFor hwcDisplayPrimary).isSome

def step (s : DisplayPool) (ev : DisplayEvent) : Option DisplayPool := some (s.next ev)

def start : DisplayPool := ⟨.start, .empty, [], false⟩

/-- The items for the hardware composer have a queue for the primary display. -/
def QueuesForPrimary (s : DisplayPool) : Prop :=
  ∀ id e, s.pool.mPoolList.valueFor id = some e → e.item.mIsHwcNeeded = true →
    e.item.mHwcUsedBqList.valueFor hwcDisplayPrimary ≠ none

/-- What is asked of the displays at any time. -/
structure Ok (s : DisplayPool) : Prop where
  others : ∀ type, type ≠ hwcDisplayPrimary → s.mDisplayList.valueFor type = lastConfig type s.history
  primary : s.seeded = true → s.mDisplayList.valueFor hwcDisplayPrimary ≠ none
  queues : s.QueuesForPrimary

/-- The primary display is not disabled while it is in the list. -/
def Regular (s : DisplayPool) (ev : DisplayEvent) : Prop :=
  configFor hwcDisplayPrimary ev.event = some none → s.mDisplayList.valueFor hwcDisplayPrimary = none

end DisplayPool

/-! ## What the operations do to the displays -/

lemma valueFor_configDisplayList (l : KeyedVector DispInfo) (type : ℕ) (enable : Bool) (w h bufNum type' : ℕ) :
    (configDisplayList l type enable w h bufNum).valueFor type'
      = if type' = type then if Disables enable w h bufNum then none else some ⟨type, w, h, bufNum⟩
        else l.valueFor type' := by
  unfold configDisplayList
  by_cases hoff : Disables enable w h bufNum
  · simp only [hoff, if_true]
    cases hold : l.valueFor type with
    | none =>
      by_cases htype : type' = type
      · simp [htype, hold]
      · simp [htype]
    | some info =>
      by_cases htype : type' = type
      · simp [htype, valueFor_removeItem]
      · split_ifs <;> simp [htype, valueFor_removeItem]
  · simp only [hoff, if_false]
    exact valueFor_add _ _ _ _

namespace PoolState

lemma valueFor_configDisplay (s : PoolState) (type : ℕ) (enable : Bool) (w height bufNum type' : ℕ) :
    (s.configDisplay type enable w height bufNum).mDisplayList.valueFor type'
      = if type' = type then if Disables enable w height bufNum then none else some bufNum
        else s.mDisplayList.valueFor type' := by
  unfold configDisplay
  by_cases hoff : Disables enable w height bufNum
  · have hoff' : enable = false ∨ w = 0 ∨ height = 0 ∨ bufNum = 0 := hoff
    simp only [hoff, hoff', if_true]
    cases hold : s.mDisplayList.valueFor type with
    | none =>
      by_cases htype : type' = type
      · simp [htype, hold]
      · simp [htype]
    | some n =>
      rw [valueFor_removeItem]
  · have hoff' : ¬ (enable = false ∨ w = 0 ∨ height = 0 ∨ bufNum = 0) := hoff
    simp only [hoff, hoff', if_false]
    exact valueFor_add _ _ _ _

/-- The displays that `alloc` makes an item for. -/
def displaysForAlloc (s : PoolState) : KeyedVector ℕ :=
  if s.mPoolList.size = 0 then s.mDisplayList.add hwcDisplayPrimary maxHwcDequeuedNum else s.mDisplayList

lemma mDisplayList_removePoolItemLocked (s : PoolState) (poolId : ℕ) :
    (s.removePoolItemLocked poolId).mDisplayList = s.mDisplayList := by
  unfold removePoolItemLocked
  split
  · rfl
  · split_ifs <;> rfl

lemma mDisplayList_producerDiedAt (token : ℕ) (s : PoolState) (poolId : ℕ) :
    (producerDiedAt token s poolId).mDisplayList = s.mDisplayList := by
  unfold producerDiedAt
  split
  · rfl
  · split_ifs
    · exact mDisplayList_removePoolItemLocked _ _
    · rfl

lemma mDisplayList_apply (s : PoolState) {act : PoolAct}
    (hconfig : ∀ type enable w height bufNum, act ≠ .configDisplay type enable w height bufNum)
    (halloc : ∀ token grallocUsage, act ≠ .alloc token grallocUsage) : (s.apply act).mDisplayList = s.mDisplayList := by
  cases act with
  | configDisplay type enable w height bufNum => exact absurd rfl (hconfig type enable w height bufNum)
  | alloc token grallocUsage => exact absurd rfl (halloc token grallocUsage)
  | free poolId =>
    simp only [apply, free]
    split
    · rfl
    · exact mDisplayList_removePoolItemLocked _ _
  | acquire token poolId b =>
    simp only [apply, acquire]
    split <;> rfl
  | release poolId b =>
    simp only [apply, release]
    split <;> rfl
  | disconnect poolId c =>
    simp only [apply, disconnect]
    split
    · rfl
    · exact mDisplayList_removePoolItemLocked _ _
  | producerDied token =>
    exact List.foldlRecOn (motive := fun s' => s'.mDisplayList = s.mDisplayList) _ _ rfl
      fun s' hs' poolId _ => (mDisplayList_producerDiedAt token s' poolId).trans hs'
  | consumerDied token poolId =>
    simp only [apply, consumerDied]
    split
    · rfl
    · split_ifs
      · exact mDisplayList_removePoolItemLocked _ _
      · rfl

end PoolState

/-- The queues of an item stay what they are. -/
def Tracked.SameQueues (e e' : Tracked) : Prop :=
  e'.item.mIsHwcNeeded = e.item.mIsHwcNeeded ∧ e'.item.mHwcUsedBqList = e.item.mHwcUsedBqList

lemma itemRule_sameQueues : PoolState.ItemRule Tracked.SameQueues where
  refl _ := ⟨rfl, rfl⟩
  trans h h' := ⟨h'.1.trans h.1, h'.2.trans h.2⟩
  freeProducer _ := ⟨rfl, rfl⟩
  acquire e token b := by
    unfold Tracked.SameQueues Tracked.acquire
    rcases e.item.acquire_cases token b with ⟨-, heq⟩ | ⟨slot, -, -, -, heq⟩ <;> simp [heq]
  release e b := by
    unfold Tracked.SameQueues Tracked.release
    rcases e.item.release_cases b with ⟨-, heq⟩ | ⟨-, heq⟩ | ⟨slot, -, -, heq⟩ <;> simp [heq]
  disconnect e c := by
    unfold Tracked.SameQueues Tracked.disconnect PoolItem.disconnect
    split_ifs
    · exact ⟨rfl, rfl⟩
    · unfold PoolItem.setDisconnected
      split <;> exact ⟨rfl, rfl⟩
  die e token := by
    unfold Tracked.SameQueues Tracked.die PoolItem.die
    split_ifs <;> exact ⟨rfl, rfl⟩

/-! ## Histories -/

namespace DisplayPool

/-- The two lists have the same displays, the other displays are as last configured, and the primary display is there
if it has been and wherever there is an item. -/
structure Inv (s : DisplayPool) : Prop where
  agrees : ∀ type, s.pool.mDisplayList.valueFor type = (s.mDisplayList.valueFor type).map DispInfo.bufNum
  others : ∀ type, type ≠ hwcDisplayPrimary → s.mDisplayList.valueFor type = lastConfig type s.history
  seeded_iff : s.seeded = true ↔ s.mDisplayList.valueFor hwcDisplayPrimary ≠ none
  items : ∀ id e, s.pool.mPoolList.valueFor id = some e → s.seeded = true
  queues : s.QueuesForPrimary

variable {s : DisplayPool} {ev : DisplayEvent}

lemma Inv.ok (h : s.Inv) : s.Ok := ⟨h.others, h.seeded_iff.mp, h.queues⟩

lemma inv_start : start.Inv where
  agrees _ := rfl
  others _ _ := rfl
  seeded_iff := by simp [start]
  items id e he := absurd he.symm (some_ne_none e)
  queues id e he := absurd he.symm (some_ne_none e)

/-- What an event has to meet: the lists go together, the other displays are set if it is a configuration and else left
alone, the primary display stays, and an item is one there was or one that is made with a queue for it. -/
lemma Inv.of_next (h : s.Inv) (hagrees : ∀ type, (s.pool.happen ev.event).mDisplayList.valueFor type
      = ((s.displaysAfter ev).valueFor type).map DispInfo.bufNum) (hothers : ∀ type, type ≠ hwcDisplayPrimary →
      (s.displaysAfter ev).valueFor type = (configFor type ev.event).getD (s.mDisplayList.valueFor type))
    (hstays : s.mDisplayList.valueFor hwcDisplayPrimary ≠ none →
      (s.displaysAfter ev).valueFor hwcDisplayPrimary ≠ none)
    (hitems : ∀ id e', (s.pool.happen ev.event).mPoolList.valueFor id = some e' →
      (∃ e, s.pool.mPoolList.valueFor id = some e ∧ e.SameQueues e')
        ∨ (s.displaysAfter ev).valueFor hwcDisplayPrimary ≠ none
          ∧ (e'.item.mIsHwcNeeded = true → e'.item.mHwcUsedBqList.valueFor hwcDisplayPrimary ≠ none)) :
    (s.next ev).Inv := by
  have hseeded : (s.next ev).seeded = true ↔ (s.displaysAfter ev).valueFor hwcDisplayPrimary ≠ none := by
    show (s.seeded || ((s.displaysAfter ev).valueFor hwcDisplayPrimary).isSome) = true ↔ _
    rw [Bool.or_eq_true, isSome_iff_ne_none, h.seeded_iff]
    exact or_iff_right_of_imp hstays
  constructor
  case agrees => exact hagrees
  case others =>
    intro type htype
    show (s.displaysAfter ev).valueFor type = (configFor type ev.event).getD (lastConfig type s.history)
    rw [hothers type htype, h.others type htype]
  case seeded_iff => exact hseeded
  case items =>
    intro id e' he'
    rcases hitems id e' he' with ⟨e, he, -⟩ | ⟨hprimary, -⟩
    · exact hseeded.mpr (hstays (h.seeded_iff.mp (h.items id e he)))
    · exact hseeded.mpr hprimary
  case queues =>
    intro id e' he' hneeded
    rcases hitems id e' he' with ⟨e, he, hsame⟩ | ⟨-, hqueue⟩
    · rw [hsame.2]
      exact h.queues id e he (hsame.1.symm.trans hneeded)
    · exact hqueue hneeded

lemma Inv.of_same (h : s.Inv) (hitems : PoolState.ItemsFrom Tracked.SameQueues s.pool (s.pool.happen ev.event))
    (hpool : (s.pool.happen ev.event).mDisplayList = s.pool.mDisplayList) (hlist : s.displaysAfter ev = s.mDisplayList)
    (hconfig : ∀ type, configFor type ev.event = none) : (s.next ev).Inv := by
  refine h.of_next (fun type => ?_) (fun type _ => ?_) (fun hthere => ?_) fun id e' he' => .inl (hitems id e' he')
  · rw [hpool, hlist]
    exact h.agrees type
  · rw [hlist, hconfig]
    rfl
  · rw [hlist]
    exact hthere

/-- **A configuration**, if it does not disable a primary display that is there. -/
lemma Inv.configDisplay (h : s.Inv) (type : ℕ) (enable : Bool) (w height bufNum : ℕ) (dinfo : ℕ × ℕ)
    (hregular : s.Regular ⟨.act (.configDisplay type enable w height bufNum), dinfo⟩) :
    (s.next ⟨.act (.configDisplay type enable w height bufNum), dinfo⟩).Inv := by
  have hlist := valueFor_configDisplayList s.mDisplayList type enable w height bufNum
  have hitems := itemRule_sameQueues.itemsFrom_configDisplay s.pool type enable w height bufNum
  refine h.of_next (fun type' => ?_) (fun type' htype' => ?_) (fun hthere => ?_) fun id e' he' =>
    .inl (hitems id e' he')
  · show (s.pool.configDisplay type enable w height bufNum).mDisplayList.valueFor type'
      = ((configDisplayList s.mDisplayList type enable w height bufNum).valueFor type').map DispInfo.bufNum
    rw [PoolState.valueFor_configDisplay, hlist, h.agrees]
    split_ifs <;> rfl
  · show (configDisplayList s.mDisplayList type enable w height bufNum).valueFor type' = _
    rw [hlist, configFor]
    by_cases htype : type' = type
    · simp [htype]
    · simp [htype, Ne.symm htype]
  · show (configDisplayList s.mDisplayList type enable w height bufNum).valueFor hwcDisplayPrimary ≠ none
    rw [hlist]
    by_cases htype : hwcDisplayPrimary = type
    · have hon : ¬ Disables enable w height bufNum := fun hoff =>
        hthere (hregular (by simp [configFor, htype, hoff]))
      simp [htype, hon]
    · simpa [htype] using hthere

lemma Inv.agrees_seed (h : s.Inv) (hroom : ¬ s.pool.mPoolList.size ≥ maxAllocSize) (dinfo : ℕ × ℕ) (type : ℕ) :
    s.pool.displaysForAlloc.valueFor type = ((s.seedDisplays dinfo).valueFor type).map DispInfo.bufNum := by
  unfold PoolState.displaysForAlloc seedDisplays
  split_ifs
  · rw [valueFor_add, valueFor_add, h.agrees]
    split_ifs <;> rfl
  · exact h.agrees type

/-- **After an `alloc` that has room the primary display is there**: it was put there, or there was an item. -/
lemma Inv.primary_seed (h : s.Inv) (hroom : ¬ s.pool.mPoolList.size ≥ maxAllocSize) (dinfo : ℕ × ℕ) :
    (s.seedDisplays dinfo).valueFor hwcDisplayPrimary ≠ none := by
  unfold seedDisplays
  split_ifs with hempty
  · rw [valueFor_add, if_pos rfl]
    exact some_ne_none _
  · obtain ⟨⟨id, e⟩, he⟩ := List.exists_mem_of_length_pos (Nat.pos_of_ne_zero hempty)
    exact h.seeded_iff.mp (h.items id e (valueFor_eq_some.mpr he))

lemma others_seed (s : DisplayPool) (dinfo : ℕ × ℕ) {type : ℕ} (htype : type ≠ hwcDisplayPrimary) :
    (s.seedDisplays dinfo).valueFor type = s.mDisplayList.valueFor type := by
  unfold seedDisplays
  split_ifs
  · rfl
  · rw [valueFor_add, if_neg htype]
  · rfl

/-- **An allocation**, with an item or without one if it fails. -/
lemma Inv.seed (h : s.Inv) (hroom : ¬ s.pool.mPoolList.size ≥ maxAllocSize)
    (hlist : s.displaysAfter ev = s.seedDisplays ev.dinfo)
    (hpool : (s.pool.happen ev.event).mDisplayList = s.pool.displaysForAlloc)
    (hconfig : ∀ type, configFor type ev.event = none)
    (hitems : ∀ id e, (s.pool.happen ev.event).mPoolList.valueFor id = some e →
      s.pool.mPoolList.valueFor id = some e
        ∨ (e.item.mIsHwcNeeded = true → e.item.mHwcUsedBqList = s.pool.displaysForAlloc)) : (s.next ev).Inv := by
  have hprimary := h.primary_seed hroom ev.dinfo
  refine h.of_next (fun type => ?_) (fun type htype => ?_) (fun _ => ?_) fun id e he => ?_
  · rw [hpool, hlist]
    exact h.agrees_seed hroom ev.dinfo type
  · rw [hlist, hconfig, others_seed s ev.dinfo htype]
    rfl
  · rw [hlist]
    exact hprimary
  · rcases hitems id e he with hold | hnew
    · exact .inl ⟨e, hold, rfl, rfl⟩
    · refine .inr ⟨hlist ▸ hprimary, fun hneeded => ?_⟩
      rw [hnew hneeded, h.agrees_seed hroom ev.dinfo]
      exact fun hnone => hprimary (map_eq_none_iff.mp hnone)

lemma Inv.alloc (h : s.Inv) (token grallocUsage : ℕ) (dinfo : ℕ × ℕ) :
    (s.next ⟨.act (.alloc token grallocUsage), dinfo⟩).Inv := by
  by_cases hfull : s.pool.mPoolList.size ≥ maxAllocSize
  · have hsame : s.pool.happen (.act (.alloc token grallocUsage)) = s.pool := if_pos hfull
    refine h.of_same ?_ ?_ (if_pos hfull) fun _ => rfl
    · rw [hsame]
      exact itemRule_sameQueues.itemsFrom_self s.pool
    · rw [hsame]
  · have halloc : s.pool.happen (.act (.alloc token grallocUsage)) = s.pool.alloc token grallocUsage := rfl
    simp only [PoolState.alloc, hfull, if_false] at halloc
    refine h.seed hfull rfl (by rw [halloc]; rfl) (fun _ => rfl) ?_
    rw [halloc]
    refine forall_add (.inr fun hneeded => ?_) fun id e _ he => .inl he
    exact if_pos hneeded

lemma Inv.allocFails (h : s.Inv) (dinfo : ℕ × ℕ) : (s.next ⟨.allocFails, dinfo⟩).Inv := by
  by_cases hfull : s.pool.mPoolList.size ≥ maxAllocSize
  · have hsame : s.pool.happen .allocFails = s.pool := if_pos hfull
    refine h.of_same ?_ ?_ (if_pos hfull) fun _ => rfl
    · rw [hsame]
      exact itemRule_sameQueues.itemsFrom_self s.pool
    · rw [hsame]
  · have hfails : s.pool.happen .allocFails = s.pool.allocFails := rfl
    simp only [PoolState.allocFails, hfull, if_false] at hfails
    refine h.seed hfull rfl (by rw [hfails]; rfl) (fun _ => rfl) ?_
    rw [hfails]
    exact fun id e he => .inl he

lemma Inv.next (h : s.Inv) (hregular : s.Regular ev) : (s.next ev).Inv := by
  obtain ⟨event, dinfo⟩ := ev
  cases event with
  | act act =>
    cases act with
    | configDisplay type enable w height bufNum => exact h.configDisplay type enable w height bufNum dinfo hregular
    | alloc token grallocUsage => exact h.alloc token grallocUsage dinfo
    | free | acquire | release | disconnect | producerDied | consumerDied =>
      refine h.of_same (itemRule_sameQueues.itemsFrom_apply s.pool ?_)
        (PoolState.mDisplayList_apply s.pool ?_ ?_) rfl
        fun _ => rfl
      all_goals
        intros
        exact PoolAct.noConfusion
  | allocFails => exact h.allocFails dinfo
  | removePoolItem poolId =>
    exact h.of_same (itemRule_sameQueues.itemsFrom_removePoolItemLocked s.pool poolId)
      (PoolState.mDisplayList_removePoolItemLocked s.pool poolId) rfl fun _ => rfl

lemma Inv.not_ok_of_not_regular (h : s.Inv) (hirregular : ¬ s.Regular ev) : ¬ (s.next ev).Ok := by
  obtain ⟨hoff, hthere⟩ := Classical.not_imp.mp hirregular
  have hseeded : (s.next ev).seeded = true := by simp [DisplayPool.next, h.seeded_iff.mpr hthere]
  obtain ⟨event, dinfo⟩ := ev
  intro hok
  refine hok.primary hseeded ?_
  cases event with
  | act act =>
    cases act with
    | configDisplay type enable w height bufNum =>
      simp only [configFor] at hoff
      split_ifs at hoff with htype hdisables
      · show (configDisplayList s.mDisplayList type enable w height bufNum).valueFor hwcDisplayPrimary = none
        rw [valueFor_configDisplayList, if_pos htype.symm, if_pos hdisables]
      · exact absurd (Option.some.inj hoff) (some_ne_none _)
    | alloc | free | acquire | release | disconnect | producerDied | consumerDied =>
      exact absurd hoff.symm (some_ne_none _)
  | allocFails | removePoolItem => exact absurd hoff.symm (some_ne_none _)

/-- **The displays of the pool.**  All along any history of the pool the list has of every other display exactly the
last configuration since it was disabled, the primary display is never removed once it is there, and every
hardware-composer item has a queue for it, iff no configuration disables the primary display while it is in the list. -/
theorem displays_right_iff (events : List DisplayEvent) :
    Along step Ok start events ↔ StepsMeet step Regular start events := by
  have htotal : ∀ s ev, ∃ s', step s ev = some s' := fun s ev => ⟨s.next ev, rfl⟩
  obtain ⟨u, hu⟩ := run_eq_some_of_total htotal events start
  refine along_iff_stepsMeet (I := Inv) ?_ (fun s h => h.ok) ?_ inv_start hu
  · intro s ev s' h hregular hs'
    cases hs'
    exact h.next hregular
  · intro s ev s' h hirregular hs'
    cases hs'
    exact h.not_ok_of_not_regular hirregular

/-- **The defect**: an item is allocated, which puts the primary display in the list, the primary display is disabled,
and the next item has no queue for it. -/
theorem primary_display_removed :
    (run step start
        [⟨.act (.alloc 9 0x800), 720, 1280⟩, ⟨.act (.configDisplay 0 false 0 0 0), 0, 0⟩,
          ⟨.act (.alloc 8 0x800), 720, 1280⟩]).map
      (fun s => (s.mDisplayList.size, s.pool.mPoolList.entries.map fun e => (e.1, e.2.item.mHwcUsedBqList.entries)))
        = some (0, [(1, [(0, 3)]), (2, [])])
      ∧ ¬ Along step Ok start
        [⟨.act (.alloc 9 0x800), 720, 1280⟩, ⟨.act (.configDisplay 0 false 0 0 0), 0, 0⟩,
          ⟨.act (.alloc 8 0x800), 720, 1280⟩] := by
  refine ⟨by decide +kernel, fun halong => ?_⟩
  obtain ⟨-, h⟩ := halong
  obtain ⟨-, h⟩ := h _ rfl
  obtain ⟨hok, -⟩ := h _ rfl
  exact hok.primary rfl rfl

end DisplayPool

end Hal
