import Mathlib.Data.List.Nodup
import DeviceHal.Sensors.EventQueue
import DeviceHal.Sensors.Handles

/-!
# Opening the sub-HALs and routing calls to them

`open_sensors` opens every sub-HAL module and pushes the devices that open onto `sub_hw_devices`;
`lazy_init_sensors_list` walks **all** modules and registers each sensor under the index of its
module.  A call for a global handle then looks its module index up and uses it as an index into
`sub_hw_devices`, "a vector parallel to `sub_hw_modules`" by the source's own comment.

This file is the code; `Sensors/Routing.lean` says where the calls end up.  The sub-HALs are
outside this repository.  What the code relies on is `SubHal.HandlesOk`, which is what
`hardware/sensors.h` asks of a HAL: within one module handles are unique and not negative.
-/

namespace Hal

/-! ## Data -/

/-- `sensor_t`, the fields the multihal reads or writes. -/
structure Sensor where
  handle : ℤ
  type : ℤ
  flags : ℕ

/-- A sub-HAL device: the pointer and `common.version`. -/
structure HwDevice where
  ptr : ℕ
  version : ℕ
deriving DecidableEq

/-- One entry of `sub_hw_modules`: the module pointer, what its `get_sensors_list` returns and
what its `open` yields (`none` when it reports an error). -/
structure SubHal where
  module : ℕ
  sensors : List Sensor
  device : Option HwDevice

/-- Handles within a module are unique and not negative. -/
def SubHal.HandlesOk (sub : SubHal) : Prop :=
  (sub.sensors.map Sensor.handle).Nodup ∧ ∀ s ∈ sub.sensors, 0 ≤ s.handle

/-- `TaskContext`: the device a writer thread polls and the position of the queue it fills. -/
structure TaskContext where
  device : HwDevice
  queue : ℕ

/-- `sensors_poll_context_t`. -/
structure SensorsPollContext where
  subHwDevices : List HwDevice
  queues : List (SensorEventQueue SensorsEvent)
  threads : List TaskContext
  nextReadIndex : ℕ

abbrev SubHwVersions := ℕ → Option ℕ

def sensorEventQueueCapacity : ℕ := 36

def sensorsDeviceApiVersion1_0 : ℕ := 0x01000001

def sensorsDeviceApiVersion1_1 : ℕ := 0x01010001

/-! ## `open_sensors` -/

def SensorsPollContext.addSubHwDevice (ctx : SensorsPollContext) (d : HwDevice) : SensorsPollContext :=
  { ctx with
    subHwDevices := ctx.subHwDevices ++ [d]
    queues := ctx.queues ++ [SensorEventQueue.new sensorEventQueueCapacity fun _ => default]
    threads := ctx.threads ++ [⟨d, ctx.queues.length⟩] }

/-- The loop of `open_sensors`.  `insert` on an `unordered_map` keeps an entry that is there. -/
def openSubHals : List SubHal → SensorsPollContext → SubHwVersions →
    SensorsPollContext × SubHwVersions
  | [], ctx, versions => (ctx, versions)
  | sub :: subs, ctx, versions =>
    match sub.device with
    | none => openSubHals subs ctx versions
    | some d =>
      openSubHals subs (ctx.addSubHwDevice d)
        (Function.update versions sub.module ((versions sub.module).or (some d.version)))

def openSensors (subHwModules : List SubHal) : SensorsPollContext × SubHwVersions :=
  openSubHals subHwModules ⟨[], [], [], 0⟩ fun _ => none

/-! ## `lazy_init_sensors_list` -/

/-- `SENSOR_TYPE_LIGHT`, `SENSOR_TYPE_PROXIMITY` and `SENSOR_TYPE_TILT_DETECTOR`. -/
def sensorTypeLight : ℤ := 5
@[inherit_doc sensorTypeLight] def sensorTypeProximity : ℤ := 8
@[inherit_doc sensorTypeLight] def sensorTypeTiltDetector : ℤ := 22

/-- `SENSOR_FLAG_WAKE_UP` and `SENSOR_FLAG_ON_CHANGE_MODE`. -/
def sensorFlagWakeUp : ℕ := 1
@[inherit_doc sensorFlagWakeUp] def sensorFlagOnChangeMode : ℕ := 2

def fixSensorFlags (version : ℕ) (sensor : Sensor) : Sensor :=
  if version ≤ sensorsDeviceApiVersion1_0 then
    let sensor :=
      if sensor.type = sensorTypeProximity ∨ sensor.type = sensorTypeTiltDetector then
        { sensor with flags := sensorFlagWakeUp ||| sensorFlagOnChangeMode }
      else sensor
    if sensor.type = sensorTypeLight then { sensor with flags := sensorFlagOnChangeMode }
    else sensor
  else sensor

@[simp] lemma fixSensorFlags_handle (version : ℕ) (sensor : Sensor) :
    (fixSensorFlags version sensor).handle = sensor.handle := by
  simp only [fixSensorFlags]
  split_ifs <;> rfl

@[simp] lemma fixSensorFlags_type (version : ℕ) (sensor : Sensor) :
    (fixSensorFlags version sensor).type = sensor.type := by
  simp only [fixSensorFlags]
  split_ifs <;> rfl

/-- The inner loop: the sensors of one module.  `none` is the exception that
`sub_hw_versions->at` throws for a module without an entry (nothing catches it), or the null
dereference when `open_sensors` has not run. -/
def registerSensors (versions : Option SubHwVersions) (moduleIndex : ℕ) (module : ℕ) :
    List Sensor → HandleMaps → Option (List Sensor × HandleMaps)
  | [], m => some ([], m)
  | s :: ss, m =>
    let assigned := m.assignGlobalHandle moduleIndex s.handle
    (versions.bind fun v => v module).bind fun version =>
      (registerSensors versions moduleIndex module ss assigned.2).map fun r =>
        (fixSensorFlags version { s with handle := assigned.1 } :: r.1, r.2)

/-- The outer loop: all modules, whether they opened or not. -/
def registerModules (versions : Option SubHwVersions) :
    ℕ → List SubHal → HandleMaps → Option (List Sensor × HandleMaps)
  | _, [], m => some ([], m)
  | moduleIndex, sub :: subs, m =>
    (registerSensors versions moduleIndex sub.module sub.sensors m).bind fun r =>
      (registerModules versions (moduleIndex + 1) subs r.2).map fun r' => (r.1 ++ r'.1, r'.2)

/-- `lazy_init_sensors_list`, on its first call: the combined list and the handle maps. -/
def lazyInitSensorsList (versions : Option SubHwVersions) (subHwModules : List SubHal) :
    Option (List Sensor × HandleMaps) :=
  registerModules versions 0 subHwModules HandleMaps.initial

/-! ## Calls from above -/

/-- A call made on a sub-HAL device, with the local handle passed. -/
inductive DeviceOp where
  | activate (localHandle enabled : ℤ)
  | setDelay (localHandle ns : ℤ)
  | flush (localHandle : ℤ)

/-- What a proxied call does: nothing but return `-EINVAL`, or call one device. -/
inductive Dispatch where
  | einval
  | call (device : HwDevice) (op : DeviceOp)

namespace SensorsPollContext

/-- `get_v0_device_by_handle` and `get_v1_device_by_handle`, which differ in a cast only. -/
def getDeviceByHandle (ctx : SensorsPollContext) (m : HandleMaps) (globalHandle : ℤ) : Option HwDevice :=
  let subIndex := m.getModuleIndex globalHandle
  if subIndex < 0 ∨ subIndex ≥ ctx.subHwDevices.length then none
  else ctx.subHwDevices[subIndex.toNat]?

def halIsAPILevelCompliant (ctx : SensorsPollContext) (m : HandleMaps) (handle : ℤ) (level : ℕ) : Bool :=
  match ctx.getDeviceByHandle m handle with
  | none => false
  | some v0 => level ≤ v0.version

/-- The guard all per-sensor calls share: a known local handle and a device. -/
def dispatch (ctx : SensorsPollContext) (m : HandleMaps) (handle : ℤ) (op : HwDevice → ℤ → Dispatch) : Dispatch :=
  let localHandle := m.getLocalHandle handle
  match ctx.getDeviceByHandle m handle with
  | some d => if localHandle ≥ 0 then op d localHandle else .einval
  | none => .einval

def activate (ctx : SensorsPollContext) (m : HandleMaps) (handle enabled : ℤ) : Dispatch :=
  ctx.dispatch m handle fun v0 localHandle => .call v0 (.activate localHandle enabled)

def setDelay (ctx : SensorsPollContext) (m : HandleMaps) (handle ns : ℤ) : Dispatch :=
  ctx.dispatch m handle fun v0 localHandle => .call v0 (.setDelay localHandle ns)

/-- `sensors_poll_context_t::flush`.  A device below API 1.1 has no `flush`. -/
def flush (ctx : SensorsPollContext) (m : HandleMaps) (handle : ℤ) : Dispatch :=
  ctx.dispatch m handle fun v1 localHandle =>
    if ctx.halIsAPILevelCompliant m handle sensorsDeviceApiVersion1_1 then
      .call v1 (.flush localHandle)
    else .einval

end SensorsPollContext

end Hal
