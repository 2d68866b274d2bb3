import Mathlib.Data.List.Nodup
import DeviceHal.Sensors.Multihal

/-!
# Which sub-HAL a global handle reaches

`sub_hw_devices` is meant to be parallel to `sub_hw_modules`.  It is parallel only as long as no
module fails to open before one that opens, since the failing branch of `open_sensors` skips the
push.  `multihal_correct_iff` is the exact statement: positions agree, calls reach the owner and
events carry the owner's handle **iff** every failed open comes after every successful one.

Two facts do the work.  `openSensors_subHwDevices`: the devices are the successful opens in order,
so the device of a module stands at the number of modules before it that opened
(`openedBefore`).  `registerModules_spec`: the sensors are registered under the position of their
module among *all* modules.  The two numbers agree exactly when no failure comes first.
-/

namespace Hal

open List Option

/-! ## What `open_sensors` builds -/

lemma openSubHals_fst (subs : List SubHal) (ctx : SensorsPollContext) (versions : SubHwVersions) :
    (openSubHals subs ctx versions).1
      = (subs.filterMap SubHal.device).foldl SensorsPollContext.addSubHwDevice ctx := by
  induction subs generalizing ctx versions with
  | nil => rfl
  | cons sub subs ih =>
    cases hd : sub.device with
    | none => simp only [openSubHals, hd, filterMap_cons, ih]
    | some d => simp only [openSubHals, hd, filterMap_cons, foldl_cons, ih]

lemma foldl_addSubHwDevice (ds : List HwDevice) (ctx : SensorsPollContext) :
    (ds.foldl SensorsPollContext.addSubHwDevice ctx).subHwDevices = ctx.subHwDevices ++ ds
      ∧ (ds.foldl SensorsPollContext.addSubHwDevice ctx).queues.length
          = ctx.queues.length + ds.length
      ∧ (ds.foldl SensorsPollContext.addSubHwDevice ctx).threads
          = ctx.threads ++ (ds.zipIdx ctx.queues.length).map fun x => ⟨x.1, x.2⟩ := by
  induction ds generalizing ctx with
  | nil => simp
  | cons d ds ih =>
    obtain ⟨hdev, hq, hthr⟩ := ih (ctx.addSubHwDevice d)
    rw [foldl_cons, hdev, hq, hthr]
    simp only [SensorsPollContext.addSubHwDevice, append_assoc, singleton_append,
      length_append, length_cons, length_nil, zipIdx_cons, map_cons]
    exact ⟨trivial, by omega, trivial⟩

lemma openSensors_subHwDevices (mods : List SubHal) :
    (openSensors mods).1.subHwDevices = mods.filterMap SubHal.device := by
  rw [openSensors, openSubHals_fst]
  simpa using (foldl_addSubHwDevice (mods.filterMap SubHal.device) ⟨[], [], [], 0⟩).1

lemma openSensors_queues_length (mods : List SubHal) :
    (openSensors mods).1.queues.length = (mods.filterMap SubHal.device).length := by
  rw [openSensors, openSubHals_fst]
  simpa using (foldl_addSubHwDevice (mods.filterMap SubHal.device) ⟨[], [], [], 0⟩).2.1

lemma openSensors_threads_getElem? (mods : List SubHal) (k : ℕ) :
    (openSensors mods).1.threads[k]?
      = (mods.filterMap SubHal.device)[k]?.map fun d => ⟨d, k⟩ := by
  rw [openSensors, openSubHals_fst, (foldl_addSubHwDevice (mods.filterMap SubHal.device) ⟨[], [], [], 0⟩).2.2]
  simp only [nil_append, length_nil, getElem?_map, getElem?_zipIdx, Nat.zero_add, Option.map_map]
  rfl

/-- How many modules before position `i` opened: where the device of module `i` goes. -/
def openedBefore (mods : List SubHal) (i : ℕ) : ℕ :=
  ((mods.take i).filterMap SubHal.device).length

variable {mods : List SubHal} {i : ℕ} {d : HwDevice}

lemma subHwDevices_openedBefore {sub : SubHal} (hi : mods[i]? = some sub) (hd : sub.device = some d) :
    (mods.filterMap SubHal.device)[openedBefore mods i]? = some d := by
  obtain ⟨hlt, rfl⟩ := List.getElem?_eq_some_iff.mp hi
  have hsplit : mods = mods.take i ++ mods[i] :: mods.drop (i + 1) := by simp
  have hfilter : mods.filterMap SubHal.device
      = (mods.take i).filterMap SubHal.device
        ++ d :: (mods.drop (i + 1)).filterMap SubHal.device := by
    conv_lhs => rw [hsplit]
    rw [filterMap_append, filterMap_cons_some hd]
  rw [hfilter, openedBefore, getElem?_append_right (le_refl _), Nat.sub_self]
  rfl

/-! ## What `lazy_init_sensors_list` builds -/

/-- The effect of registering the sensors `ss` of module `moduleIndex`: the published copies carry
consecutive handles, both maps know them, and everything else is as before. -/
structure RegisteredFrom (moduleIndex : ℕ) (ss : List Sensor) (m m' : HandleMaps)
    (published : List Sensor) : Prop where
  next : m'.nextGlobalHandle = m.nextGlobalHandle + ss.length
  length_eq : published.length = ss.length
  handle : ∀ (j : ℕ) s, ss[j]? = some s →
    ∃ p, published[j]? = some p ∧ p.handle = m.nextGlobalHandle + j ∧ p.type = s.type
  full : ∀ (j : ℕ) s, ss[j]? = some s →
    m'.globalToFull (m.nextGlobalHandle + j) = some ⟨moduleIndex, s.handle⟩
  global : (ss.map Sensor.handle).Nodup → ∀ (j : ℕ) s, ss[j]? = some s →
    m'.fullToGlobal ⟨moduleIndex, s.handle⟩ = some (m.nextGlobalHandle + j)
  frame_full : ∀ g < m.nextGlobalHandle, m'.globalToFull g = m.globalToFull g
  frame_global : ∀ f : FullHandle,
    f.moduleIndex ≠ moduleIndex ∨ f.localHandle ∉ ss.map Sensor.handle →
      m'.fullToGlobal f = m.fullToGlobal f

variable {m : HandleMaps}

/-- **One sensor more in front**: `next` is one higher for the others, and one entry is new in each map. -/
lemma RegisteredFrom.cons {moduleIndex : ℕ} {s p : Sensor} {ss published : List Sensor} {m' : HandleMaps}
    (h : RegisteredFrom moduleIndex ss (m.assignGlobalHandle moduleIndex s.handle).2 m' published)
    (hhandle : p.handle = m.nextGlobalHandle) (htype : p.type = s.type) :
    RegisteredFrom moduleIndex (s :: ss) m m' (p :: published) := by
  have hnext : (m.assignGlobalHandle moduleIndex s.handle).2.nextGlobalHandle
      = m.nextGlobalHandle + 1 := rfl
  have hcast : ∀ j : ℕ, m.nextGlobalHandle + ((j + 1 : ℕ) : ℤ)
      = (m.nextGlobalHandle + 1) + j := by intro j; omega
  constructor
  case next =>
    rw [h.next, hnext, length_cons, hcast]
  case length_eq =>
    rw [length_cons, h.length_eq, length_cons]
  case handle =>
    intro j s' hj
    cases j with
    | zero =>
      cases hj
      exact ⟨p, rfl, by simp [hhandle], htype⟩
    | succ j =>
      obtain ⟨p', hp', hhandle', htype'⟩ := h.handle j s' hj
      exact ⟨p', hp', by rw [hhandle', hnext, hcast], htype'⟩
  case full =>
    intro j s' hj
    cases j with
    | zero =>
      cases hj
      rw [h.frame_full _ (by rw [hnext]; omega)]
      simp [HandleMaps.assignGlobalHandle]
    | succ j => rw [hcast, ← hnext]; exact h.full j s' hj
  case global =>
    intro hnodup j s' hj
    rw [map_cons, nodup_cons] at hnodup
    cases j with
    | zero =>
      cases hj
      rw [h.frame_global _ (.inr hnodup.1)]
      simp [HandleMaps.assignGlobalHandle]
    | succ j => rw [hcast, ← hnext]; exact h.global hnodup.2 j s' hj
  case frame_full =>
    intro g hg
    rw [h.frame_full g (by rw [hnext]; omega)]
    exact Function.update_of_ne (by omega) _ _
  case frame_global =>
    intro f hf
    rw [map_cons, mem_cons, not_or] at hf
    rw [h.frame_global f (hf.imp_right And.right)]
    refine Function.update_of_ne ?_ _ _
    rintro rfl
    rcases hf with hf | hf
    · exact hf rfl
    · exact hf.1 rfl

lemma registerSensors_spec {versions : Option SubHwVersions} {moduleIndex module : ℕ}
    {ss : List Sensor} {m' : HandleMaps} {published : List Sensor}
    (h : registerSensors versions moduleIndex module ss m = some (published, m')) :
    RegisteredFrom moduleIndex ss m m' published := by
  induction ss generalizing m published with
  | nil =>
    obtain ⟨rfl, rfl⟩ := h
    constructor <;> simp
  | cons s ss ih =>
    simp only [registerSensors, bind_eq_some_iff, map_eq_some_iff, Prod.mk.injEq] at h
    obtain ⟨version, _, ⟨rest, m₂⟩, hrest, rfl, rfl⟩ := h
    exact (ih hrest).cons (by simp [HandleMaps.assignGlobalHandle]) (by simp)

/-- Where the sensors of module `i` start in the combined list. -/
def sensorOffset (mods : List SubHal) (i : ℕ) : ℕ :=
  ((mods.take i).map fun sub => sub.sensors.length).sum

lemma sensorOffset_zero (mods : List SubHal) : sensorOffset mods 0 = 0 := rfl

lemma sensorOffset_succ (sub : SubHal) (mods : List SubHal) (i : ℕ) :
    sensorOffset (sub :: mods) (i + 1) = sub.sensors.length + sensorOffset mods i := by
  rw [sensorOffset, take_succ_cons, map_cons, sum_cons, sensorOffset]

/-- Sensor `j` of module `i` as the combined list publishes it, and what the maps say of it. -/
structure Published (base : ℕ) (mods : List SubHal) (m m' : HandleMaps) (list : List Sensor)
    (i j : ℕ) (sub : SubHal) (s p : Sensor) : Prop where
  entry : list[sensorOffset mods i + j]? = some p
  type_eq : p.type = s.type
  handle_eq : p.handle = m.nextGlobalHandle + (sensorOffset mods i + j : ℕ)
  full : m'.globalToFull p.handle = some ⟨(base + i : ℕ), s.handle⟩
  global : (sub.sensors.map Sensor.handle).Nodup →
    m'.fullToGlobal ⟨(base + i : ℕ), s.handle⟩ = some p.handle

section Modules

variable {base : ℕ} {sub₀ : SubHal} {mods : List SubHal} {m m₁ m' : HandleMaps} {first rest : List Sensor}

lemma RegisteredFrom.published_first (hreg : RegisteredFrom base sub₀.sensors m m₁ first)
    (hfull : ∀ g < m₁.nextGlobalHandle, m'.globalToFull g = m₁.globalToFull g)
    (hglobal : ∀ f : FullHandle, f.moduleIndex < (base + 1 : ℕ) → m'.fullToGlobal f = m₁.fullToGlobal f)
    {j : ℕ} {s : Sensor} (hj : sub₀.sensors[j]? = some s) :
    ∃ p, Published base (sub₀ :: mods) m m' (first ++ rest) 0 j sub₀ s p := by
  obtain ⟨p, hp, hhandle, htype⟩ := hreg.handle j s hj
  have hjlt : j < sub₀.sensors.length := (List.getElem?_eq_some_iff.mp hj).1
  have hnext := hreg.next
  refine ⟨p, ⟨?_, htype, ?_, ?_, fun hnodup => ?_⟩⟩
  · rw [sensorOffset_zero, Nat.zero_add, getElem?_append_left (by rw [hreg.length_eq]; exact hjlt)]
    exact hp
  · rw [sensorOffset_zero, Nat.zero_add]
    exact hhandle
  · rw [hhandle, hfull _ (by omega)]
    exact hreg.full j s hj
  · rw [hglobal _ (by show ((base + 0 : ℕ) : ℤ) < _; omega), hhandle]
    exact hreg.global hnodup j s hj

lemma RegisteredFrom.published_later (hreg : RegisteredFrom base sub₀.sensors m m₁ first) {i j : ℕ} {sub : SubHal}
    {s p : Sensor} (hpub : Published (base + 1) mods m₁ m' rest i j sub s p) :
    Published base (sub₀ :: mods) m m' (first ++ rest) (i + 1) j sub s p := by
  have hbase : base + (i + 1) = base + 1 + i := by omega
  refine ⟨?_, hpub.type_eq, ?_, ?_, fun hnodup => ?_⟩
  · rw [sensorOffset_succ, Nat.add_assoc, getElem?_append_right (by rw [hreg.length_eq]; omega),
      hreg.length_eq, Nat.add_sub_cancel_left]
    exact hpub.entry
  · rw [hpub.handle_eq, hreg.next, sensorOffset_succ]
    omega
  · rw [hbase]; exact hpub.full
  · rw [hbase]; exact hpub.global hnodup

end Modules

/-- The combined list: every sensor of every module, under the position of its module. -/
lemma registerModules_spec {versions : Option SubHwVersions} :
    ∀ {base : ℕ} {m m' : HandleMaps} {list : List Sensor},
      registerModules versions base mods m = some (list, m') →
      (m.nextGlobalHandle ≤ m'.nextGlobalHandle
        ∧ (∀ g < m.nextGlobalHandle, m'.globalToFull g = m.globalToFull g)
        ∧ (∀ f : FullHandle, f.moduleIndex < base → m'.fullToGlobal f = m.fullToGlobal f))
      ∧ ∀ (i j : ℕ) sub s, mods[i]? = some sub → sub.sensors[j]? = some s →
          ∃ p, Published base mods m m' list i j sub s p := by
  induction mods with
  | nil =>
    intro base m m' list h
    obtain ⟨rfl, rfl⟩ := h
    simp
  | cons sub₀ mods ih =>
    intro base m m' list h
    simp only [registerModules, bind_eq_some_iff, map_eq_some_iff, Prod.mk.injEq] at h
    obtain ⟨⟨first, m₁⟩, hfirst, ⟨rest, m₂⟩, hrest, rfl, rfl⟩ := h
    dsimp only at hrest ⊢
    have hreg := registerSensors_spec hfirst
    obtain ⟨⟨hmono, hfull, hglobal⟩, hsub⟩ := ih hrest
    have hnext := hreg.next
    refine ⟨⟨by omega, fun g hg => ?_, fun f hf => ?_⟩, ?_⟩
    · rw [hfull g (by omega), hreg.frame_full g hg]
    · rw [hglobal f (by omega), hreg.frame_global f (.inl (by omega))]
    intro i j sub s hi hj
    cases i with
    | zero =>
      cases hi
      exact hreg.published_first hfull hglobal hj
    | succ i =>
      obtain ⟨p, hpub⟩ := hsub i j sub s hi hj
      exact ⟨p, hreg.published_later hpub⟩

/-! ## Dispatch by position -/

section Dispatch

variable {ctx : SensorsPollContext} {g localHandle : ℤ} (hfull : m.globalToFull g = some ⟨i, localHandle⟩)
  (hdev : ctx.subHwDevices[i]? = some d)

include hfull

lemma getModuleIndex_of_full : m.getModuleIndex g = i := by
  simp [HandleMaps.getModuleIndex, hfull]

lemma getLocalHandle_of_full : m.getLocalHandle g = localHandle := by
  simp [HandleMaps.getLocalHandle, hfull]

include hdev

/-- A handle registered under position `i` reaches the device at position `i`. -/
lemma SensorsPollContext.getDeviceByHandle_eq : ctx.getDeviceByHandle m g = some d := by
  have hlt : i < ctx.subHwDevices.length := (List.getElem?_eq_some_iff.mp hdev).1
  simp only [getDeviceByHandle, getModuleIndex_of_full hfull]
  rw [if_neg (by omega), Int.toNat_natCast, hdev]

lemma SensorsPollContext.dispatch_eq (hlocal : 0 ≤ localHandle) (op : HwDevice → ℤ → Dispatch) :
    ctx.dispatch m g op = op d localHandle := by
  simp only [dispatch, getDeviceByHandle_eq hfull hdev, getLocalHandle_of_full hfull]
  rw [if_pos hlocal]

end Dispatch

/-! ## The characterisation -/

/-- Every module that fails to open comes after every module that opens. -/
def FailedOpensLast (mods : List SubHal) : Prop :=
  ∀ (i j : ℕ) (a b : SubHal), i < j → mods[i]? = some a → mods[j]? = some b →
    b.device.isSome → a.device.isSome

/-- The position of a module, of its device, and of the queue its writer thread fills are one. -/
structure PositionsAgree (mods : List SubHal) (ctx : SensorsPollContext) : Prop where
  device : ∀ (i : ℕ) (sub : SubHal) (d : HwDevice), mods[i]? = some sub → sub.device = some d →
    ctx.subHwDevices[i]? = some d
  queue : ∀ (i : ℕ) (sub : SubHal) (d : HwDevice), mods[i]? = some sub → sub.device = some d →
    ctx.threads[i]? = some ⟨d, i⟩ ∧ i < ctx.queues.length
  owner : ∀ (i : ℕ) (d : HwDevice), ctx.subHwDevices[i]? = some d →
    ∃ sub, mods[i]? = some sub ∧ sub.device = some d

/-- Sensor `s`, the `j`-th of module `i`, from above: it is published, calls on its handle go to `d` with its
local handle (below API 1.1 there is no `flush`), and every event that names it and reaches the queue of
`d`'s writer thread comes out with the published handle. -/
def RoutedToOwner (mods : List SubHal) (ctx : SensorsPollContext) (maps : HandleMaps)
    (list : List Sensor) (i j : ℕ) (d : HwDevice) (s : Sensor) : Prop :=
  ∃ p, list[sensorOffset mods i + j]? = some p ∧ p.type = s.type
    ∧ (∀ enabled, ctx.activate maps p.handle enabled = .call d (.activate s.handle enabled))
    ∧ (∀ ns, ctx.setDelay maps p.handle ns = .call d (.setDelay s.handle ns))
    ∧ ctx.flush maps p.handle
        = (if sensorsDeviceApiVersion1_1 ≤ d.version then .call d (.flush s.handle) else .einval)
    ∧ ∃ queue, ctx.threads[openedBefore mods i]? = some ⟨d, queue⟩
        ∧ ∀ e : SensorsEvent, e.handle = s.handle →
            copyEventRemapHandle maps e queue = e.withHandle p.handle

/-- What the multihal promises after `open_sensors` and the first `get_sensors_list`. -/
structure MultihalCorrect (mods : List SubHal) : Prop where
  positions : PositionsAgree mods (openSensors mods).1
  routed : ∀ list maps, lazyInitSensorsList (some (openSensors mods).2) mods = some (list, maps) →
    ∀ (i j : ℕ) (sub : SubHal) (d : HwDevice) (s : Sensor), mods[i]? = some sub →
      sub.device = some d → sub.sensors[j]? = some s →
      RoutedToOwner mods (openSensors mods).1 maps list i j d s

lemma FailedOpensLast.filterMap_getElem? (h : FailedOpensLast mods) (i : ℕ) :
    (mods.filterMap SubHal.device)[i]? = mods[i]?.bind SubHal.device := by
  induction mods generalizing i with
  | nil => simp
  | cons sub mods ih =>
    have htail : FailedOpensLast mods := fun a b x y hab hx hy =>
      h (a + 1) (b + 1) x y (by omega) hx hy
    cases hd : sub.device with
    | none =>
      -- the head failed, so nothing after it opened
      have hnone : ∀ x ∈ mods, x.device = none := by
        intro x hx
        obtain ⟨k, hk⟩ := mem_iff_getElem?.mp hx
        by_contra hsome
        have hhead := h 0 (k + 1) sub x (by omega) rfl hk (isSome_iff_ne_none.mpr hsome)
        rw [hd] at hhead
        exact Bool.noConfusion hhead
      rw [filterMap_cons_none hd, filterMap_eq_nil_iff.mpr hnone]
      cases i with
      | zero => simp [hd]
      | succ i =>
        rw [getElem?_cons_succ, getElem?_nil]
        cases hi : mods[i]? with
        | none => rfl
        | some x => exact (hnone x (mem_of_getElem? hi)).symm
    | some d =>
      rw [filterMap_cons_some hd]
      cases i with
      | zero => simp [hd]
      | succ i => rw [getElem?_cons_succ, getElem?_cons_succ, ih htail]

/-- With all failures last, the device of a module that opens goes to the module's own position. -/
lemma FailedOpensLast.openedBefore_eq (h : FailedOpensLast mods)
    {sub : SubHal} (hi : mods[i]? = some sub) (hd : sub.device = some d) : openedBefore mods i = i := by
  have hall : ∀ x ∈ mods.take i, x.device.isSome := by
    intro x hx
    obtain ⟨k, hk⟩ := mem_iff_getElem?.mp hx
    have hki : k < i := by
      have := (List.getElem?_eq_some_iff.mp hk).1
      rw [length_take] at this
      omega
    rw [getElem?_take_of_lt hki] at hk
    exact h k i x sub hki hk hi (by rw [hd]; rfl)
  rw [openedBefore, filterMap_length_eq_length.mpr hall, length_take]
  have := (List.getElem?_eq_some_iff.mp hi).1
  omega

/-- If every device stands at the position of its module, no failure came first: there are only
as many positions as devices. -/
lemma failedOpensLast_of_positions
    (h : ∀ (i : ℕ) (sub : SubHal) (d : HwDevice), mods[i]? = some sub → sub.device = some d →
      (mods.filterMap SubHal.device)[i]? = some d) : FailedOpensLast mods := by
  set n := (mods.filterMap SubHal.device).length with hn
  have hbound : ∀ (i : ℕ) (sub : SubHal), mods[i]? = some sub → sub.device.isSome → i < n := by
    intro i sub hi hsome
    obtain ⟨d, hd⟩ := isSome_iff_exists.mp hsome
    exact (List.getElem?_eq_some_iff.mp (h i sub d hi hd)).1
  have hdrop : (mods.drop n).filterMap SubHal.device = [] := by
    refine filterMap_eq_nil_iff.mpr fun x hx => ?_
    obtain ⟨k, hk⟩ := mem_iff_getElem?.mp hx
    rw [getElem?_drop] at hk
    by_contra hsome
    have := hbound (n + k) x hk (isSome_iff_ne_none.mpr hsome)
    omega
  have htake : ((mods.take n).filterMap SubHal.device).length = n := by
    conv_rhs => rw [hn, ← take_append_drop n mods, filterMap_append, hdrop, append_nil]
  have hall : ∀ x ∈ mods.take n, x.device.isSome := by
    refine filterMap_length_eq_length.mp (le_antisymm (length_filterMap_le ..) ?_)
    rw [htake]
    exact length_take_le n mods
  intro i j a b hij hi hj hb
  have hjn := hbound j b hj hb
  refine hall a (mem_iff_getElem?.mpr ⟨i, ?_⟩)
  rw [getElem?_take_of_lt (by omega), hi]

/-- **Where the multihal is right.**  Positions agree, calls reach the device of the module that
owns the sensor and events carry that sensor's global handle, if and only if every module that
fails to open comes after every module that opens. -/
theorem multihal_correct_iff (mods : List SubHal) (hhandles : ∀ sub ∈ mods, sub.HandlesOk) :
    MultihalCorrect mods ↔ FailedOpensLast mods := by
  constructor
  · intro h
    refine failedOpensLast_of_positions fun i sub d hi hd => ?_
    rw [← openSensors_subHwDevices]
    exact h.positions.device i sub d hi hd
  · intro h
    have hdev : ∀ (i : ℕ) (sub : SubHal) (d : HwDevice), mods[i]? = some sub →
        sub.device = some d → (mods.filterMap SubHal.device)[i]? = some d := by
      intro i sub d hi hd
      rw [h.filterMap_getElem?, hi]
      exact hd
    have hpos : PositionsAgree mods (openSensors mods).1 := by
      refine ⟨fun i sub d hi hd => ?_, fun i sub d hi hd => ⟨?_, ?_⟩, fun i d hi => ?_⟩
      · rw [openSensors_subHwDevices, hdev i sub d hi hd]
      · rw [openSensors_threads_getElem?, hdev i sub d hi hd]; rfl
      · rw [openSensors_queues_length]
        exact (List.getElem?_eq_some_iff.mp (hdev i sub d hi hd)).1
      · rw [openSensors_subHwDevices, h.filterMap_getElem?] at hi
        exact bind_eq_some_iff.mp hi
    refine ⟨hpos, fun list maps hlist i j sub d s hi hd hj => ?_⟩
    obtain ⟨_, hspec⟩ := registerModules_spec hlist
    obtain ⟨p, hpub⟩ := hspec i j sub s hi hj
    have hok := hhandles sub (mem_of_getElem? hi)
    have hlocal : 0 ≤ s.handle := hok.2 s (mem_of_getElem? hj)
    have hfull : maps.globalToFull p.handle = some ⟨i, s.handle⟩ := by
      have := hpub.full
      rwa [Nat.zero_add] at this
    have hglobal : maps.fullToGlobal ⟨i, s.handle⟩ = some p.handle := by
      have := hpub.global hok.1
      rwa [Nat.zero_add] at this
    have hd' := hpos.device i sub d hi hd
    have hdispatch := SensorsPollContext.dispatch_eq hfull hd' hlocal
    have hplace := h.openedBefore_eq hi hd
    refine ⟨p, hpub.entry, hpub.type_eq, fun enabled => hdispatch _, fun ns => hdispatch _, ?_,
      openedBefore mods i, ?_, fun e he => ?_⟩
    · rw [SensorsPollContext.flush, hdispatch, SensorsPollContext.halIsAPILevelCompliant,
        SensorsPollContext.getDeviceByHandle_eq hfull hd']
      simp
    · rw [openSensors_threads_getElem?, subHwDevices_openedBefore hi hd]; rfl
    · rw [copyEventRemapHandle_eq, he, hplace, HandleMaps.getGlobalHandle_eq hglobal]

/-- Two modules that open followed by one that does not. -/
def failedLast : List SubHal :=
  [⟨100, [⟨1, 1, 0⟩, ⟨2, 5, 0⟩], some ⟨10, sensorsDeviceApiVersion1_0⟩⟩,
    ⟨200, [⟨1, 4, 0⟩], some ⟨20, sensorsDeviceApiVersion1_1⟩⟩, ⟨300, [], none⟩]

theorem multihal_correct_failedLast :
    (∀ sub ∈ failedLast, sub.HandlesOk) ∧ FailedOpensLast failedLast
      ∧ MultihalCorrect failedLast := by
  have hok : ∀ sub ∈ failedLast, sub.HandlesOk := by
    simp [failedLast, SubHal.HandlesOk]
  have hlast : FailedOpensLast failedLast := by
    intro i j a b hij hi hj hb
    have hj3 : j < 3 := (List.getElem?_eq_some_iff.mp hj).1
    obtain rfl | rfl | rfl : i = 0 ∨ i = 1 ∨ i = 2 := by omega
    · cases hi; rfl
    · cases hi; rfl
    · omega
  exact ⟨hok, hlast, (multihal_correct_iff failedLast hok).mpr hlast⟩

/-- A module without sensors that fails to open, followed by two that open. -/
def failedFirst : List SubHal :=
  [⟨100, [], none⟩, ⟨200, [⟨1, 1, 0⟩], some ⟨20, sensorsDeviceApiVersion1_1⟩⟩,
    ⟨300, [⟨7, 4, 0⟩], some ⟨30, sensorsDeviceApiVersion1_1⟩⟩]

/-- The list is published all the same, and the handle of the second module's sensor switches a
sensor of the third module's device. -/
theorem multihal_misroutes_failedFirst :
    (∃ list maps,
      lazyInitSensorsList (some (openSensors failedFirst).2) failedFirst = some (list, maps)
        ∧ list.map Sensor.handle = [1, 2]
        ∧ (openSensors failedFirst).1.activate maps 1 1
            = .call ⟨30, sensorsDeviceApiVersion1_1⟩ (.activate 1 1))
      ∧ ¬ MultihalCorrect failedFirst := by
  refine ⟨⟨_, _, rfl, rfl, rfl⟩, fun h => ?_⟩
  have hdev := h.positions.device 2 _ _ rfl rfl
  simp [openSensors_subHwDevices, failedFirst] at hdev

end Hal
