import Mathlib.Data.Int.Basic

/-!
# Global and local sensor handles

A sub-HAL numbers its own sensors; the multihal renumbers all of them from 1 on and keeps the
correspondence in two `std::map`s (`hal/sensors/multihal.cpp`, `assign_global_handle` and the
three lookups).  `HandleMaps` carries the relation between the two maps as a field: whatever
`full_to_global` answers is a handle that `global_to_full` sends back, and handles are positive.  The converse
fails on purpose — a local handle registered twice leaves a stale entry in `global_to_full`.

`copyEventRemapHandle` is the translation of an event on its way up.  An ordinary event names its
sensor in the `sensor` field, a `META_DATA` event in the payload.
-/

namespace Hal

open Function

/-- `FullHandle`: a sensor named by the position of its module and its local handle. -/
structure FullHandle where
  moduleIndex : ℤ
  localHandle : ℤ
deriving DecidableEq, Repr, Inhabited

/-- `global_to_full`, `full_to_global` and `next_global_handle`. -/
structure HandleMaps where
  globalToFull : ℤ → Option FullHandle
  fullToGlobal : FullHandle → Option ℤ
  nextGlobalHandle : ℤ
  next_pos : 1 ≤ nextGlobalHandle
  keys_pos : ∀ g f, globalToFull g = some f → 1 ≤ g
  registered : ∀ f g, fullToGlobal f = some g → g < nextGlobalHandle ∧ globalToFull g = some f

namespace HandleMaps

/-- The maps at start-up: empty, with 1 as the next handle. -/
def initial : HandleMaps where
  globalToFull _ := none
  fullToGlobal _ := none
  nextGlobalHandle := 1
  next_pos := Int.le_refl 1
  keys_pos := by simp
  registered := by simp

/-- `assign_global_handle`: the handle given out, and the maps after it. -/
def assignGlobalHandle (m : HandleMaps) (moduleIndex localHandle : ℤ) : ℤ × HandleMaps :=
  (m.nextGlobalHandle,
    { globalToFull :=
        update m.globalToFull m.nextGlobalHandle (some ⟨moduleIndex, localHandle⟩)
      fullToGlobal :=
        update m.fullToGlobal ⟨moduleIndex, localHandle⟩ (some m.nextGlobalHandle)
      nextGlobalHandle := m.nextGlobalHandle + 1
      next_pos := by have := m.next_pos; omega
      keys_pos := by
        intro g f hg
        by_cases hnew : g = m.nextGlobalHandle
        · rw [hnew]; exact m.next_pos
        · rw [update_of_ne hnew] at hg
          exact m.keys_pos g f hg
      registered := by
        intro f g hfg
        by_cases hf : f = ⟨moduleIndex, localHandle⟩
        · subst hf
          simp only [update_self, Option.some.injEq] at hfg
          subst hfg
          exact ⟨by omega, update_self ..⟩
        · rw [update_of_ne hf] at hfg
          obtain ⟨hlt, hback⟩ := m.registered f g hfg
          -- an older handle is below the new one, so its entry is not overwritten
          exact ⟨by omega, by rw [update_of_ne (by omega)]; exact hback⟩ })

def getLocalHandle (m : HandleMaps) (globalHandle : ℤ) : ℤ :=
  match m.globalToFull globalHandle with
  | none => -1
  | some f => f.localHandle

def getModuleIndex (m : HandleMaps) (globalHandle : ℤ) : ℤ :=
  match m.globalToFull globalHandle with
  | none => -1
  | some f => f.moduleIndex

def getGlobalHandle (m : HandleMaps) (fullHandle : FullHandle) : ℤ :=
  match m.fullToGlobal fullHandle with
  | none => -1
  | some g => g

/-- The handle is a key of `global_to_full`. -/
def IsRegistered (m : HandleMaps) (globalHandle : ℤ) : Prop :=
  (m.globalToFull globalHandle).isSome

lemma getGlobalHandle_eq {m : HandleMaps} {f : FullHandle} {g : ℤ} (h : m.fullToGlobal f = some g) :
    m.getGlobalHandle f = g := by
  simp [getGlobalHandle, h]

/-- A full handle is either known, and then its global handle is registered, or it is answered
with -1. -/
lemma getGlobalHandle_cases (m : HandleMaps) (f : FullHandle) :
    (∃ g, m.fullToGlobal f = some g ∧ m.getGlobalHandle f = g ∧ 1 ≤ g ∧ m.IsRegistered g)
      ∨ (m.fullToGlobal f = none ∧ m.getGlobalHandle f = -1) := by
  cases hf : m.fullToGlobal f with
  | none => exact .inr ⟨rfl, by simp [getGlobalHandle, hf]⟩
  | some g =>
    obtain ⟨_, hback⟩ := m.registered f g hf
    exact .inl ⟨g, rfl, getGlobalHandle_eq hf, m.keys_pos g f hback,
      by simp [IsRegistered, hback]⟩

lemma not_isRegistered_neg_one (m : HandleMaps) : ¬ m.IsRegistered (-1) := by
  intro h
  obtain ⟨f, hf⟩ := Option.isSome_iff_exists.mp h
  have := m.keys_pos (-1) f hf
  omega

lemma getGlobalHandle_eq_neg_one_iff (m : HandleMaps) (f : FullHandle) :
    m.getGlobalHandle f = -1 ↔ m.fullToGlobal f = none := by
  rcases m.getGlobalHandle_cases f with ⟨g, hf, hg, hpos, _⟩ | ⟨hf, hg⟩
  · rw [hg, hf]
    constructor
    · intro h; omega
    · intro h; simp at h
  · simp [hf, hg]

end HandleMaps

/-! ## Events -/

/-- `sensors_event_t`.  `metaWhat` and `metaSensor` are the first two words of the payload union,
which in a `META_DATA` event are `meta_data.what` and `meta_data.sensor`; `payload` is the rest
of the union. -/
structure SensorsEvent where
  version : ℤ
  sensor : ℤ
  type : ℤ
  reserved0 : ℤ
  timestamp : ℤ
  metaWhat : ℤ
  metaSensor : ℤ
  payload : List ℤ
  flags : ℤ
  reserved1 : List ℤ
deriving DecidableEq, Repr, Inhabited

def sensorTypeMetaData : ℤ := 0

namespace SensorsEvent

/-- The event refers to a sensor in its payload. -/
def IsMetaData (e : SensorsEvent) : Prop := e.type = sensorTypeMetaData

instance (e : SensorsEvent) : Decidable e.IsMetaData :=
  inferInstanceAs (Decidable (e.type = sensorTypeMetaData))

/-- The handle the event refers to, wherever it stands. -/
def handle (e : SensorsEvent) : ℤ := if e.IsMetaData then e.metaSensor else e.sensor

/-- The event with that handle replaced. -/
def withHandle (e : SensorsEvent) (h : ℤ) : SensorsEvent :=
  if e.IsMetaData then { e with metaSensor := h } else { e with sensor := h }

@[simp] lemma withHandle_type (e : SensorsEvent) (h : ℤ) : (e.withHandle h).type = e.type := by
  unfold withHandle; split_ifs <;> rfl

@[simp] lemma handle_withHandle (e : SensorsEvent) (h : ℤ) : (e.withHandle h).handle = h := by
  by_cases hm : e.IsMetaData
  · have hm' : (e.withHandle h).IsMetaData := (withHandle_type e h).trans hm
    rw [handle, if_pos hm', withHandle, if_pos hm]
  · have hm' : ¬ (e.withHandle h).IsMetaData := fun hc => hm ((withHandle_type e h).symm.trans hc)
    rw [handle, if_neg hm', withHandle, if_neg hm]

end SensorsEvent

/-- `copy_event_remap_handle`: the local handle is looked up under `sub_index`, the position of
the queue the event came from. -/
def copyEventRemapHandle (m : HandleMaps) (src : SensorsEvent) (subIndex : ℕ) : SensorsEvent :=
  if src.type = sensorTypeMetaData then
    { src with metaSensor := m.getGlobalHandle ⟨subIndex, src.metaSensor⟩ }
  else
    { src with sensor := m.getGlobalHandle ⟨subIndex, src.sensor⟩ }

/-- The remapping replaces the handle the event refers to and nothing else. -/
lemma copyEventRemapHandle_eq (m : HandleMaps) (e : SensorsEvent) (subIndex : ℕ) :
    copyEventRemapHandle m e subIndex
      = e.withHandle (m.getGlobalHandle ⟨subIndex, e.handle⟩) := by
  by_cases hm : e.type = sensorTypeMetaData
  · have hm' : e.IsMetaData := hm
    rw [copyEventRemapHandle, if_pos hm, SensorsEvent.withHandle, if_pos hm', SensorsEvent.handle, if_pos hm']
  · have hm' : ¬ e.IsMetaData := hm
    rw [copyEventRemapHandle, if_neg hm, SensorsEvent.withHandle, if_neg hm', SensorsEvent.handle, if_neg hm']

end Hal
