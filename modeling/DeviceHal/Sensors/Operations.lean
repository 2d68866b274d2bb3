import DeviceHal.Sensors.Routing

/-!
# What a sub-HAL is called with

The per-sensor operations of the multihal, with everything they pass on: the device whose function is
called, the device pointer given to it, and the arguments.  `Sensors/Multihal.lean` has `activate`,
`setDelay` and `flush`; here are `batch` and `inject_sensor_data`, and `device__batch`, the entry of the
proxy's function table, which does not call `batch` at all.

Two of the operations do not translate what they pass on.  `batch` to a device below API 1.1 falls back
on `setDelay` and gives it the global handle; it also clamps the period by the entry of
`global_sensors_list` at the index of the *module*.  `inject_sensor_data` passes the proxy's device
pointer and the event as it came in, global handle included.

* **`operation_owner_iff`** — for every registered handle and every operation, exactly when the call, if
  one is made, is right.
-/

namespace Hal

open Option SensorsPollContext

/-! ## Calls on sub-HAL devices -/

/-- The functions of `sensors_poll_device_1`, with the arguments after the device pointer. -/
inductive SubHalOp where
  | activate (handle enabled : ℤ)
  | setDelay (handle ns : ℤ)
  | batch (handle flags periodNs timeout : ℤ)
  | flush (handle : ℤ)
  | injectSensorData (data : SensorsEvent)

/-- The handle passed; for `inject_sensor_data` it is in the event. -/
def SubHalOp.handle : SubHalOp → ℤ
  | .activate handle _ => handle
  | .setDelay handle _ => handle
  | .batch handle _ _ _ => handle
  | .flush handle => handle
  | .injectSensorData data => data.sensor

/-- One call: the device whose function it is, the device pointer passed, the rest. -/
structure SubHalCall where
  device : HwDevice
  dev : ℕ
  op : SubHalOp

/-- The call a `Dispatch` stands for: `v0->f(v0, …)`. -/
def Dispatch.calls : Dispatch → List SubHalCall
  | .einval => []
  | .call v0 (.activate handle enabled) => [⟨v0, v0.ptr, .activate handle enabled⟩]
  | .call v0 (.setDelay handle ns) => [⟨v0, v0.ptr, .setDelay handle ns⟩]
  | .call v0 (.flush handle) => [⟨v0, v0.ptr, .flush handle⟩]

def sensorsDeviceApiVersion1_4 : ℕ := 0x01040001

/-- `minDelay` and `maxDelay` of an entry of `global_sensors_list`. -/
structure SensorDelays where
  minDelay : ℤ
  maxDelay : ℤ

def SensorDelays.clamp (delays : SensorDelays) (periodNs : ℤ) : ℤ :=
  if periodNs < delays.minDelay then delays.minDelay
  else if periodNs > delays.maxDelay then delays.maxDelay
  else periodNs

namespace SensorsPollContext

/-- `sensors_poll_context_t::batch`.  The delays are those of `global_sensors_list`, entry by entry;
`none` is a read beyond its end. -/
def batch (ctx : SensorsPollContext) (m : HandleMaps) (delays : List SensorDelays)
    (handle flags periodNs timeout : ℤ) : Option (List SubHalCall) :=
  match ctx.getDeviceByHandle m handle with
  | none => some []
  | some v1 =>
    if m.getLocalHandle handle ≥ 0 then
      if ctx.halIsAPILevelCompliant m handle sensorsDeviceApiVersion1_1 then
        some [⟨v1, v1.ptr, .batch (m.getLocalHandle handle) flags periodNs timeout⟩]
      else if periodNs < 0 ∨ timeout < 0 then some []
      else
        (delays[(m.getModuleIndex handle).toNat]?).map fun entry =>
          -- the global handle, where the local one belongs
          [⟨v1, v1.ptr, .setDelay handle (entry.clamp periodNs)⟩]
    else some []

def injectSensorData (ctx : SensorsPollContext) (m : HandleMaps) (dev : ℕ) (data : SensorsEvent) : List SubHalCall :=
  match ctx.getDeviceByHandle m data.sensor with
  | none => []
  | some v1 =>
    if ctx.halIsAPILevelCompliant m data.sensor sensorsDeviceApiVersion1_4
        ∧ m.getLocalHandle data.sensor ≥ 0 then
      [⟨v1, dev, .injectSensorData data⟩]
    else []

/-- `device__batch`: the period goes to `setDelay`. -/
def deviceBatch (ctx : SensorsPollContext) (m : HandleMaps) (handle periodNs : ℤ) : List SubHalCall :=
  (ctx.setDelay m handle periodNs).calls

end SensorsPollContext

/-! ## One operation on one sensor -/

/-- An operation and its arguments other than the handle.  The event to inject names the sensor itself,
so its `sensor` field is left open here. -/
inductive SensorOp where
  | activate (enabled : ℤ)
  | setDelay (ns : ℤ)
  | batch (flags periodNs timeout : ℤ)
  | deviceBatch (flags periodNs timeout : ℤ)
  | flush
  | injectSensorData (dev : ℕ) (data : SensorsEvent)

/-- The calls an operation on a handle makes. -/
def SensorsPollContext.operate (ctx : SensorsPollContext) (m : HandleMaps)
    (delays : List SensorDelays) (handle : ℤ) : SensorOp → Option (List SubHalCall)
  | .activate enabled => some (ctx.activate m handle enabled).calls
  | .setDelay ns => some (ctx.setDelay m handle ns).calls
  | .batch flags periodNs timeout => ctx.batch m delays handle flags periodNs timeout
  | .deviceBatch _ periodNs _ => some (ctx.deviceBatch m handle periodNs)
  | .flush => some (ctx.flush m handle).calls
  | .injectSensorData dev data => some (ctx.injectSensorData m dev { data with sensor := handle })

/-- No sub-HAL is reached, or one call is made: on the owner, with its own pointer and the local
handle. -/
def CallsOwner (owner : Option HwDevice) (localHandle : ℤ) (calls : Option (List SubHalCall)) : Prop :=
  calls = some [] ∨ ∃ d op, owner = some d ∧ calls = some [⟨d, d.ptr, op⟩] ∧ op.handle = localHandle

namespace SensorOp

/-- The operation is passed on to a device, not answered by the multihal itself. -/
def PassedOn (v : HwDevice) : SensorOp → Prop
  | .activate _ => True
  | .setDelay _ => True
  | .batch _ periodNs timeout =>
    sensorsDeviceApiVersion1_1 ≤ v.version ∨ (0 ≤ periodNs ∧ 0 ≤ timeout)
  | .deviceBatch _ _ _ => True
  | .flush => sensorsDeviceApiVersion1_1 ≤ v.version
  | .injectSensorData _ _ => sensorsDeviceApiVersion1_4 ≤ v.version

/-- What it takes for the arguments to be right as they come: nothing where the code translates; one handle
on both sides, with an entry at the module's index where `batch` falls back on `setDelay`, and with the
sub-HAL's own pointer for an event to inject. -/
def Fits (v : HwDevice) (moduleIndex sensorCount : ℕ) (handle localHandle : ℤ) : SensorOp → Prop
  | .activate _ => True
  | .setDelay _ => True
  | .batch _ _ _ =>
    sensorsDeviceApiVersion1_1 ≤ v.version ∨ (handle = localHandle ∧ moduleIndex < sensorCount)
  | .deviceBatch _ _ _ => True
  | .flush => True
  | .injectSensorData dev _ => handle = localHandle ∧ dev = v.ptr

end SensorOp

/-! ## Whose a registered handle is -/

variable {versions : Option SubHwVersions}

lemma registerSensors_registered {moduleIndex module : ℕ}
    {ss : List Sensor} {m m' : HandleMaps} {published : List Sensor}
    (h : registerSensors versions moduleIndex module ss m = some (published, m')) {g : ℤ}
    {f : FullHandle} (hg : m'.globalToFull g = some f) :
    m.globalToFull g = some f ∨ ∃ s ∈ ss, f = ⟨moduleIndex, s.handle⟩ := by
  induction ss generalizing m published with
  | nil =>
    obtain ⟨-, rfl⟩ := h
    exact .inl hg
  | cons s ss ih =>
    simp only [registerSensors, bind_eq_some_iff, map_eq_some_iff, Prod.mk.injEq] at h
    obtain ⟨version, -, ⟨rest, m₂⟩, hrest, -, rfl⟩ := h
    rcases ih hrest with hold | ⟨s', hmem, rfl⟩
    · -- known before the later sensors: the new entry or an older one
      by_cases hnew : g = m.nextGlobalHandle
      · subst hnew
        simp only [HandleMaps.assignGlobalHandle, Function.update_self, Option.some.injEq] at hold
        exact .inr ⟨s, List.mem_cons_self, hold.symm⟩
      · simp only [HandleMaps.assignGlobalHandle, Function.update_of_ne hnew] at hold
        exact .inl hold
    · exact .inr ⟨s', List.mem_cons_of_mem s hmem, rfl⟩

lemma registerModules_registered {mods : List SubHal} :
    ∀ {base : ℕ} {m m' : HandleMaps} {list : List Sensor},
      registerModules versions base mods m = some (list, m') →
      ∀ {g : ℤ} {f : FullHandle}, m'.globalToFull g = some f → m.globalToFull g = some f
        ∨ ∃ (i : ℕ) (sub : SubHal) (s : Sensor), mods[i]? = some sub ∧ s ∈ sub.sensors
            ∧ f = ⟨(base + i : ℕ), s.handle⟩ := by
  induction mods with
  | nil =>
    intro base m m' list h g f hg
    obtain ⟨-, rfl⟩ := h
    exact .inl hg
  | cons sub₀ mods ih =>
    intro base m m' list h g f hg
    simp only [registerModules, bind_eq_some_iff, map_eq_some_iff, Prod.mk.injEq] at h
    obtain ⟨⟨first, m₁⟩, hfirst, ⟨rest, m₂⟩, hrest, -, rfl⟩ := h
    rcases ih hrest hg with hold | ⟨i, sub, s, hi, hs, rfl⟩
    · rcases registerSensors_registered hfirst hold with hold | ⟨s, hs, rfl⟩
      · exact .inl hold
      · exact .inr ⟨0, sub₀, s, rfl, hs, rfl⟩
    · exact .inr ⟨i + 1, sub, s, hi, hs, by congr 2; omega⟩

/-- The full handle names sensor `s` of module `i`. -/
structure OwnedBy (mods : List SubHal) (f : FullHandle) (i : ℕ) (sub : SubHal) (s : Sensor) :
    Prop where
  module : mods[i]? = some sub
  sensor : s ∈ sub.sensors
  full : f = ⟨i, s.handle⟩

lemma exists_ownedBy {mods : List SubHal} {list : List Sensor}
    {maps : HandleMaps} (hlist : lazyInitSensorsList versions mods = some (list, maps)) {g : ℤ}
    {f : FullHandle} (hg : maps.globalToFull g = some f) : ∃ i sub s, OwnedBy mods f i sub s := by
  rcases registerModules_registered hlist hg with hold | ⟨i, sub, s, hi, hs, rfl⟩
  · cases hold
  · exact ⟨i, sub, s, hi, hs, by rw [Nat.zero_add]⟩

/-! ## What the operations pass on -/

lemma callsOwner_nil (owner : Option HwDevice) (localHandle : ℤ) :
    CallsOwner owner localHandle (some []) := Or.inl rfl

lemma callsOwner_call_iff {owner : Option HwDevice} {localHandle : ℤ} {v : HwDevice} {dev : ℕ} {op : SubHalOp} :
    CallsOwner owner localHandle (some [⟨v, dev, op⟩])
      ↔ owner = some v ∧ dev = v.ptr ∧ op.handle = localHandle := by
  constructor
  · rintro (h | ⟨d, op', howner, hcall, hhandle⟩)
    · cases h
    · cases hcall
      exact ⟨howner, rfl, hhandle⟩
  · rintro ⟨howner, rfl, hhandle⟩
    exact .inr ⟨v, op, howner, rfl, hhandle⟩

section Operate

variable {ctx : SensorsPollContext} {m : HandleMaps} {delays : List SensorDelays} {g localHandle : ℤ}
  {i : ℕ} {v : HwDevice} (hfull : m.globalToFull g = some ⟨i, localHandle⟩)

include hfull

lemma operate_of_no_device (hdev : ctx.subHwDevices[i]? = none) (op : SensorOp) :
    ctx.operate m delays g op = some [] := by
  have hindex := getModuleIndex_of_full hfull
  have hnone : ctx.getDeviceByHandle m g = none := by
    have hle := List.getElem?_eq_none_iff.mp hdev
    exact if_pos (.inr (by omega))
  cases op <;>
    simp [operate, activate, setDelay, batch, deviceBatch, flush, injectSensorData, dispatch, hnone,
      Dispatch.calls]

variable (hdev : ctx.subHwDevices[i]? = some v)

include hdev

lemma halIsAPILevelCompliant_of_full (version : ℕ) :
    ctx.halIsAPILevelCompliant m g version = decide (version ≤ v.version) := by
  rw [halIsAPILevelCompliant, getDeviceByHandle_eq hfull hdev]

lemma operate_of_neg (hneg : localHandle < 0) (op : SensorOp) : ctx.operate m delays g op = some [] := by
  have hlocal := getLocalHandle_of_full hfull
  have hnot : ¬ localHandle ≥ 0 := by omega
  have hv := getDeviceByHandle_eq hfull hdev
  cases op <;>
    simp [operate, activate, setDelay, batch, deviceBatch, flush, injectSensorData, dispatch, hv, hlocal,
      hnot, Dispatch.calls]

lemma callsOwner_batch_iff (hpos : 0 ≤ localHandle) (owner : Option HwDevice) (flags periodNs timeout : ℤ) :
    CallsOwner owner localHandle (ctx.batch m delays g flags periodNs timeout)
      ↔ (SensorOp.PassedOn v (.batch flags periodNs timeout) →
          owner = some v ∧ SensorOp.Fits v i delays.length g localHandle (.batch flags periodNs timeout)) := by
  have hlocal := getLocalHandle_of_full hfull
  have hindex := getModuleIndex_of_full hfull
  have hv := getDeviceByHandle_eq hfull hdev
  have hcompliant := halIsAPILevelCompliant_of_full hfull hdev sensorsDeviceApiVersion1_1
  simp only [batch, hv, hlocal, hcompliant, ge_iff_le, hpos, if_true,
    decide_eq_true_eq, SensorOp.PassedOn, SensorOp.Fits]
  by_cases hversion : sensorsDeviceApiVersion1_1 ≤ v.version
  · simp only [hversion, if_true, true_or, and_true, true_imp_iff]
    rw [callsOwner_call_iff]
    simp [SubHalOp.handle]
  · simp only [hversion, if_false, false_or]
    by_cases hneg : periodNs < 0 ∨ timeout < 0
    · rw [if_pos hneg]
      exact iff_of_true (callsOwner_nil owner localHandle) fun h => by omega
    · rw [if_neg hneg, hindex, Int.toNat_natCast]
      have hnonneg : 0 ≤ periodNs ∧ 0 ≤ timeout := by omega
      cases hentry : delays[i]? with
      | none =>
        have hout : ¬ i < delays.length := Nat.not_lt.mpr (List.getElem?_eq_none_iff.mp hentry)
        simp [CallsOwner, hout, hnonneg]
      | some entry =>
        have hin : i < delays.length := (List.getElem?_eq_some_iff.mp hentry).1
        rw [map_some, callsOwner_call_iff]
        simp [SubHalOp.handle, hin, hnonneg]

lemma callsOwner_inject_iff (hpos : 0 ≤ localHandle) (owner : Option HwDevice) (dev : ℕ) (data : SensorsEvent) :
    CallsOwner owner localHandle (some (ctx.injectSensorData m dev { data with sensor := g }))
      ↔ (SensorOp.PassedOn v (.injectSensorData dev data) →
          owner = some v
            ∧ SensorOp.Fits v i delays.length g localHandle (.injectSensorData dev data)) := by
  have hlocal := getLocalHandle_of_full hfull
  have hv := getDeviceByHandle_eq hfull hdev
  have hcompliant := halIsAPILevelCompliant_of_full hfull hdev sensorsDeviceApiVersion1_4
  simp only [injectSensorData, hv, hlocal, hcompliant, ge_iff_le, hpos, and_true,
    decide_eq_true_eq, SensorOp.PassedOn, SensorOp.Fits]
  by_cases hversion : sensorsDeviceApiVersion1_4 ≤ v.version
  · rw [if_pos hversion, callsOwner_call_iff]
    simp only [hversion, true_imp_iff, SubHalOp.handle]
    exact and_congr_right fun _ => And.comm
  · rw [if_neg hversion]
    exact iff_of_true (callsOwner_nil owner localHandle) fun h => absurd h hversion

/-- For a handle whose module's position holds device `v`: the call goes to `v`, so `v` has to be the
owner, and where the code does not translate the arguments they have to fit as they are. -/
lemma callsOwner_operate_iff (hpos : 0 ≤ localHandle) (owner : Option HwDevice) (op : SensorOp) :
    CallsOwner owner localHandle (ctx.operate m delays g op)
      ↔ (op.PassedOn v → owner = some v ∧ op.Fits v i delays.length g localHandle) := by
  have hdispatch := dispatch_eq hfull hdev hpos
  cases op with
  | activate enabled =>
    simp [operate, activate, hdispatch, Dispatch.calls,
      callsOwner_call_iff, SensorOp.PassedOn, SensorOp.Fits, SubHalOp.handle]
  | setDelay ns =>
    simp [operate, setDelay, hdispatch, Dispatch.calls,
      callsOwner_call_iff, SensorOp.PassedOn, SensorOp.Fits, SubHalOp.handle]
  | deviceBatch flags periodNs timeout =>
    simp [operate, deviceBatch, setDelay, hdispatch,
      Dispatch.calls, callsOwner_call_iff, SensorOp.PassedOn, SensorOp.Fits, SubHalOp.handle]
  | flush =>
    have hcompliant := halIsAPILevelCompliant_of_full hfull hdev sensorsDeviceApiVersion1_1
    simp only [operate, flush, hdispatch, hcompliant,
      decide_eq_true_eq, SensorOp.PassedOn, SensorOp.Fits, and_true]
    by_cases hversion : sensorsDeviceApiVersion1_1 ≤ v.version
    · simp only [hversion, if_true, true_imp_iff, Dispatch.calls]
      rw [callsOwner_call_iff]
      simp [SubHalOp.handle]
    · simp only [hversion, if_false, Dispatch.calls]
      exact iff_of_true (callsOwner_nil owner localHandle) fun h => absurd h id
  | batch flags periodNs timeout => exact callsOwner_batch_iff hfull hdev hpos owner flags periodNs timeout
  | injectSensorData dev data => exact callsOwner_inject_iff hfull hdev hpos owner dev data

end Operate

/-- **When an operation that reaches a sub-HAL is right.**  For every registered handle there is the
sensor it stands for, and for every operation on it: no sub-HAL is called, or exactly one is, the owner,
with its own pointer and the local handle, if and only if the device at the module's position among those
that opened is the owner's and the arguments that are passed on untranslated fit as they are. -/
theorem operation_owner_iff (mods : List SubHal) (list : List Sensor) (maps : HandleMaps)
    (hlist : lazyInitSensorsList (some (openSensors mods).2) mods = some (list, maps))
    (delays : List SensorDelays) (g : ℤ) (f : FullHandle) (hg : maps.globalToFull g = some f) :
    ∃ i sub s, OwnedBy mods f i sub s ∧ ∀ op : SensorOp,
      CallsOwner sub.device s.handle ((openSensors mods).1.operate maps delays g op)
        ↔ ∀ v, (mods.filterMap SubHal.device)[i]? = some v → 0 ≤ s.handle → op.PassedOn v →
            sub.device = some v ∧ op.Fits v i delays.length g s.handle := by
  obtain ⟨i, sub, s, howned⟩ := exists_ownedBy hlist hg
  refine ⟨i, sub, s, howned, fun op => ?_⟩
  have hfull : maps.globalToFull g = some ⟨i, s.handle⟩ := by rw [hg, howned.full]
  rw [← openSensors_subHwDevices]
  cases hdev : (openSensors mods).1.subHwDevices[i]? with
  | none =>
    rw [operate_of_no_device hfull hdev]
    exact iff_of_true (callsOwner_nil _ _) fun v hv => by cases hv
  | some v =>
    by_cases hpos : 0 ≤ s.handle
    · rw [callsOwner_operate_iff hfull hdev hpos]
      constructor
      · intro h v' hv' _ hpassed
        cases hv'
        exact h hpassed
      · intro h hpassed
        exact h v rfl hpos hpassed
    · rw [operate_of_neg hfull hdev (by omega)]
      exact iff_of_true (callsOwner_nil _ _) fun v _ h => absurd h hpos

/-- Two sub-HALs, of API 1.0 and 1.4, whose local handles are not the global ones. -/
def oldAndNewHals : List SubHal :=
  [⟨100, [⟨5, 1, 0⟩], some ⟨10, sensorsDeviceApiVersion1_0⟩⟩,
    ⟨200, [⟨3, 4, 0⟩], some ⟨20, sensorsDeviceApiVersion1_4⟩⟩]

theorem operation_owner_oldAndNewHals :
    ∃ list maps, lazyInitSensorsList (some (openSensors oldAndNewHals).2) oldAndNewHals
        = some (list, maps)
      ∧ maps.globalToFull 2 = some ⟨1, 3⟩
      ∧ ∃ i sub s, OwnedBy oldAndNewHals ⟨1, 3⟩ i sub s ∧ ∀ op : SensorOp,
          CallsOwner sub.device s.handle ((openSensors oldAndNewHals).1.operate maps [] 2 op)
            ↔ ∀ v, (oldAndNewHals.filterMap SubHal.device)[i]? = some v → 0 ≤ s.handle →
                op.PassedOn v → sub.device = some v ∧ op.Fits v i 0 2 s.handle := by
  refine ⟨_, _, rfl, rfl, ?_⟩
  exact operation_owner_iff oldAndNewHals _ _ rfl [] 2 ⟨1, 3⟩ rfl

/-- **The two defects**: `batch` switches the delay of handle 1 on the older sub-HAL, whose sensor is its
handle 5, and an event for the newer one arrives there with the proxy's device pointer and the global
handle. -/
theorem operation_passes_global_handle :
    ∃ list maps, lazyInitSensorsList (some (openSensors oldAndNewHals).2) oldAndNewHals
        = some (list, maps)
      ∧ maps.globalToFull 1 = some ⟨0, 5⟩ ∧ maps.globalToFull 2 = some ⟨1, 3⟩
      ∧ (openSensors oldAndNewHals).1.operate maps [⟨0, 100⟩, ⟨0, 100⟩] 1 (.batch 0 50 0)
          = some [⟨⟨10, sensorsDeviceApiVersion1_0⟩, 10, .setDelay 1 50⟩]
      ∧ (openSensors oldAndNewHals).1.operate maps [⟨0, 100⟩, ⟨0, 100⟩] 2
            (.injectSensorData 77 default)
          = some [⟨⟨20, sensorsDeviceApiVersion1_4⟩, 77,
              .injectSensorData { (default : SensorsEvent) with sensor := 2 }⟩]
      ∧ ¬ CallsOwner (some ⟨10, sensorsDeviceApiVersion1_0⟩) 5
          ((openSensors oldAndNewHals).1.operate maps [⟨0, 100⟩, ⟨0, 100⟩] 1 (.batch 0 50 0))
      ∧ ¬ CallsOwner (some ⟨20, sensorsDeviceApiVersion1_4⟩) 3
          ((openSensors oldAndNewHals).1.operate maps [⟨0, 100⟩, ⟨0, 100⟩] 2
            (.injectSensorData 77 default)) := by
  refine ⟨_, _, rfl, rfl, rfl, rfl, rfl, fun h => ?_, fun h => ?_⟩
  · have hhandle := (callsOwner_call_iff.mp h).2.2
    revert hhandle
    decide
  · have hdev := (callsOwner_call_iff.mp h).2.1
    revert hdev
    decide

end Hal
