import Mathlib.Data.List.GetD
import DeviceHal.Core.Reads
import DeviceHal.Wifi.Rtt

/-!
# The location elements of a result

The attribute with a result is a record, and behind it there may be a measurement element with the coordinates of the
target (LCI), one with its address (civic location), or both in either order.  `RttCommand::handleEvent` copies the
attribute to a block, looks for the elements in it, points to them from the record, and prints fields of the record.

`Wifi.Rtt` says where it looks, over a block of memory of which only the beginning is the attribute.  Here the reads are
those of the code, and a read behind the attribute is a fault.  The layout of the record is a parameter.

**The defects.**  Before the second element the size of the record is taken from the length for the second time, and
so an element that is not longer than the record is not found.  Nothing is compared with the length of the header of
the first element, nor the length of the attribute with that of the record.

* **`rtt_elements_right_iff`** — for which attributes both elements are found and nothing else is read.
-/

namespace Hal

open List Option

/-- The layout of `wifi_rtt_result`: its size, and where the last of the fields ends that are printed. -/
structure RttLayout where
  size : ℕ
  logEnd : ℕ
  logEnd_le : logEnd ≤ size
  four_le : 4 ≤ size

/-! ## The code -/

def secondPointer (size : ℕ) (payload : List UInt8) (type : UInt8) : Except Fault (Option ℕ) := do
  let len ← loadByte payload (size + 1)
  if 0 < (payload.length : ℤ) - size - size - (len.toNat + dot11HdrLen : ℕ) then do
    let id ← loadByte payload (size + (len.toNat + dot11HdrLen))
    if id = dot11MngMeasureRequestId then do
      let type' ← loadByte payload (size + (len.toNat + dot11HdrLen) + 4)
      .ok (if type' = type then some (size + (len.toNat + dot11HdrLen)) else none)
    else .ok none
  else .ok none

/-- The two branches by the type of `ele_1`. -/
def firstPointer (size : ℕ) (payload : List UInt8) (type : UInt8) : Except Fault (Option ℕ × Option ℕ) :=
  if type = dot11MeasureTypeLci then do
    let second ← secondPointer size payload dot11MeasureTypeCivicloc
    .ok (some size, second)
  else if type = dot11MeasureTypeCivicloc then do
    let second ← secondPointer size payload dot11MeasureTypeLci
    .ok (second, some size)
  else .ok (none, none)

/-- The offsets that `LCI` and `LCR` are pointed to. -/
def locationPointers (size : ℕ) (payload : List UInt8) : Except Fault (Option ℕ × Option ℕ) :=
  if 0 < (payload.length : ℤ) - size then do
    let id ← loadByte payload size
    if id = dot11MngMeasureRequestId then do
      let type ← loadByte payload (size + 4)
      firstPointer size payload type
    else .ok (none, none)
  else .ok (none, none)

/-- What `handleEvent` does with an attribute once it is copied: the pointers, and the line that it prints. -/
def readResult (layout : RttLayout) (payload : List UInt8) : Except Fault (Option ℕ × Option ℕ) := do
  let pointers ← locationPointers layout.size payload
  let _ ← load payload 0 layout.logEnd
  .ok pointers

/-! ## What is asked of it -/

inductive LocationKind where
  | lci
  | civic
deriving DecidableEq

def LocationKind.type : LocationKind → UInt8
  | .lci => dot11MeasureTypeLci
  | .civic => dot11MeasureTypeCivicloc

def LocationKind.pointer : LocationKind → Option ℕ × Option ℕ → Option ℕ
  | .lci => Prod.fst
  | .civic => Prod.snd

/-- A measurement element.  Its length is that of all behind the length. -/
structure LocationElement where
  kind : LocationKind
  token : UInt8
  mode : UInt8
  body : List UInt8
  fits : body.length + 3 < 256

def LocationElement.bytes (e : LocationElement) : List UInt8 :=
  [dot11MngMeasureRequestId, UInt8.ofNat (e.body.length + 3), e.token, e.mode, e.kind.type] ++ e.body

def IsResult (layout : RttLayout) (parts : List LocationElement) (payload : List UInt8) : Prop :=
  ∃ record : List UInt8, record.length = layout.size ∧ payload = record ++ parts.flatMap LocationElement.bytes

/-- Nothing outside the attribute is read; and each element of a result, with at most one of a kind, is pointed to. -/
structure ResultRight (layout : RttLayout) (payload : List UInt8) : Prop where
  inside : InBounds (readResult layout payload)
  pointers : ∀ (before : List LocationElement) (e : LocationElement) (after : List LocationElement),
    ((before ++ e :: after).map LocationElement.kind).Nodup → IsResult layout (before ++ e :: after) payload →
    ∃ found, readResult layout payload = .ok found
      ∧ e.kind.pointer found = some (layout.size + (before.flatMap LocationElement.bytes).length)

/-- The attributes with which all goes well: the fields that are printed are there; behind the record there is no
element without its header; and the second of two elements is longer than the record. -/
structure ResultRegular (layout : RttLayout) (payload : List UInt8) : Prop where
  printed : layout.logEnd ≤ payload.length
  header : payload[layout.size]? = some dot11MngMeasureRequestId → layout.size + 4 < payload.length
  second : ∀ e₁ e₂ : LocationElement, e₁.kind ≠ e₂.kind → IsResult layout [e₁, e₂] payload →
    layout.size < e₂.bytes.length

/-! ## The reads -/

/-- The block begins with the attribute. -/
def BeginsWith (block : Memory) (payload : List UInt8) : Prop := ∀ i < payload.length, block i = payload.getD i 0

section Block

variable {block : Memory} {payload : List UInt8} (hblock : BeginsWith block payload) {size : ℕ} (hsize : 4 ≤ size)

include hblock

lemma reads_block (i : ℕ) : Reads (loadByte payload i) (i < payload.length) (block i) :=
  (reads_loadByte payload i).of_eq fun h => (hblock i h).symm

include hsize

lemma reads_secondPointer (type : UInt8) : Reads (secondPointer size payload type) (size + 1 < payload.length)
      (secondElement size block payload.length type) := by
  refine (reads_block hblock (size + 1)).bind_ok fun _ => ?_
  rw [secondElement]
  by_cases hpos : 0 < (payload.length : ℤ) - size - size - elementLen block size
  · have hid := (reads_block hblock (size + elementLen block size)).eq_ok (by omega)
    have htype := (reads_block hblock (size + elementLen block size + 4)).eq_ok (by omega)
    refine (if_pos hpos).trans ?_
    unfold elementLen at hid htype
    rw [hid]
    by_cases hmatch : block (size + elementLen block size) = dot11MngMeasureRequestId
    · refine (if_pos hmatch).trans ?_
      rw [htype]
      simp only [IsElement, hpos, hmatch, true_and]
      rfl
    · refine (if_neg hmatch).trans ?_
      simp [IsElement, hmatch]
  · refine (if_neg hpos).trans ?_
    simp only [hpos, false_and, if_false]

lemma firstPointer_eq (h : size + 4 < payload.length) (hid : block size = dot11MngMeasureRequestId) :
    firstPointer size payload (block (size + 4)) = .ok (locationElements size block payload.length) := by
  have hsecond := fun type => (reads_secondPointer hblock hsize type).eq_ok (by omega)
  rw [locationElements, if_pos (show 0 < (payload.length : ℤ) - size by omega), firstPointer, hsecond, hsecond]
  simp only [IsElement, hid, true_and]
  split_ifs <;> rfl

/-- **The reads** stay inside the attribute iff a first element has its header there. -/
lemma reads_locationPointers : Reads (locationPointers size payload)
      (payload[size]? = some dot11MngMeasureRequestId → size + 4 < payload.length)
      (locationElements size block payload.length) := by
  by_cases hlen : 0 < (payload.length : ℤ) - size
  · have hlt : size < payload.length := by omega
    have hget : payload[size]? = some (block size) := by
      rw [hblock size hlt, getD_eq_getElem?_getD, getElem?_eq_getElem hlt, getD_some]
    have hpointers : locationPointers size payload
        = if block size = dot11MngMeasureRequestId then loadByte payload (size + 4) >>= firstPointer size payload
          else .ok (none, none) := by
      rw [locationPointers, if_pos hlen, (reads_block hblock _).eq_ok hlt]
      rfl
    rw [hget, hpointers, Option.some.injEq]
    by_cases hid : block size = dot11MngMeasureRequestId
    · rw [if_pos hid]
      exact ((reads_block hblock (size + 4)).bind_ok fun h => firstPointer_eq hblock hsize h hid).congr
        ⟨fun h _ => h, fun h => h hid⟩
    · refine ⟨fun _ => ?_, fun _ hid' => absurd hid' hid⟩
      simp only [locationElements, IsElement, hid, false_and, if_false, ite_self]
  · have hnone : payload[size]? = none := getElem?_eq_none (by omega)
    rw [hnone, locationPointers, locationElements, if_neg hlen, if_neg hlen]
    exact ⟨fun _ => rfl, fun _ hid => absurd hid (some_ne_none _).symm⟩

end Block

lemma beginsWith_ofList (payload : List UInt8) : BeginsWith (.ofList payload) payload := fun _ _ => rfl

variable {block : Memory}

/-- An attribute is read inside iff its record is there as far as it is printed and a first element has its header. -/
lemma reads_readResult {payload : List UInt8} (layout : RttLayout) (hblock : BeginsWith block payload) :
    Reads (readResult layout payload)
      ((payload[layout.size]? = some dot11MngMeasureRequestId → layout.size + 4 < payload.length)
        ∧ 0 + layout.logEnd ≤ payload.length)
      (locationElements layout.size block payload.length) :=
  (reads_locationPointers hblock layout.four_le).bind ((reads_load payload 0 layout.logEnd).map _)

/-! ## The elements -/

lemma LocationElement.length_bytes (e : LocationElement) : e.bytes.length = e.body.length + 5 := by
  simp [LocationElement.bytes]

/-- **An element is recognised**, and its length, wherever it is. -/
lemma isElement_bytes {pre post : List UInt8} {e : LocationElement}
    (hblock : BeginsWith block (pre ++ (e.bytes ++ post))) :
    IsElement block pre.length e.kind.type ∧ elementLen block pre.length = e.bytes.length := by
  have hbyte : ∀ k < 5, block (pre.length + k) = e.bytes.getD k 0 := by
    intro k hk
    have hlen := e.length_bytes
    rw [hblock _ (by simp only [length_append]; omega), getD_append_right _ _ _ _ (by omega),
      Nat.add_sub_cancel_left, getD_append _ _ _ _ (by omega)]
  refine ⟨⟨hbyte 0 (by decide), hbyte 4 (by decide)⟩, ?_⟩
  have hlength : block (pre.length + 1) = UInt8.ofNat (e.body.length + 3) := hbyte 1 (by decide)
  rw [elementLen, hlength, UInt8.toNat_ofNat_of_lt' e.fits, dot11HdrLen, e.length_bytes]

/-- The element of a kind that comes first is pointed to, and what is pointed to for the other kind is the second
element. -/
lemma pointer_locationElements {size len : ℕ} {kind : LocationKind} (hlen : size < len)
    (h : IsElement block size kind.type) (kind' : LocationKind) :
    kind'.pointer (locationElements size block len)
      = if kind' = kind then some size else secondElement size block len kind'.type := by
  have hpos : 0 < (len : ℤ) - size := by omega
  rw [locationElements, if_pos hpos]
  cases kind with
  | lci =>
    rw [if_pos (show IsElement block size dot11MeasureTypeLci from h)]
    cases kind' <;> rfl
  | civic =>
    have hnot : ¬ IsElement block size dot11MeasureTypeLci := fun h' => absurd (h'.2.symm.trans h.2) (by decide)
    rw [if_neg hnot, if_pos (show IsElement block size dot11MeasureTypeCivicloc from h)]
    cases kind' <;> rfl

section Result

variable {layout : RttLayout} {payload : List UInt8}

/-- A record with elements behind it begins the first one behind the record. -/
lemma IsResult.first {e : LocationElement} {after : List LocationElement} (h : IsResult layout (e :: after) payload) :
    IsElement (.ofList payload) layout.size e.kind.type
      ∧ elementLen (.ofList payload) layout.size = e.bytes.length
      ∧ payload.length = layout.size + e.bytes.length + (after.flatMap LocationElement.bytes).length := by
  obtain ⟨record, hrecord, rfl⟩ := h
  rw [flatMap_cons]
  obtain ⟨his, hlen⟩ := isElement_bytes (beginsWith_ofList (record ++ (e.bytes ++ after.flatMap LocationElement.bytes)))
  rw [hrecord] at his hlen
  refine ⟨his, hlen, ?_⟩
  rw [length_append, length_append, hrecord, Nat.add_assoc]

/-- **The second element** is pointed to iff it is longer than the record. -/
lemma IsResult.second_iff {e₁ e₂ : LocationElement} (h : IsResult layout [e₁, e₂] payload) (hne : e₁.kind ≠ e₂.kind) :
    e₂.kind.pointer (locationElements layout.size (.ofList payload) payload.length)
        = some (layout.size + e₁.bytes.length) ↔ layout.size < e₂.bytes.length := by
  obtain ⟨his, helen, hlen⟩ := h.first
  have hsecond : IsElement (.ofList payload) (layout.size + e₁.bytes.length) e₂.kind.type := by
    obtain ⟨record, hrecord, rfl⟩ := h
    have hsplit : record ++ [e₁, e₂].flatMap LocationElement.bytes = (record ++ e₁.bytes) ++ (e₂.bytes ++ []) := by simp
    rw [hsplit]
    have his₂ := (isElement_bytes (beginsWith_ofList ((record ++ e₁.bytes) ++ (e₂.bytes ++ [])))).1
    rwa [length_append, hrecord] at his₂
  rw [flatMap_singleton] at hlen
  have he₁ := e₁.length_bytes
  rw [pointer_locationElements (by omega) his, if_neg (Ne.symm hne), secondElement, helen]
  simp only [hsecond, and_true]
  constructor
  · intro hsome
    by_contra hnot
    rw [if_neg (by omega)] at hsome
    cases hsome
  · intro hlt
    exact if_pos (by omega)

lemma eq_nil_of_nodup_kinds {e₁ e₂ : LocationElement} {after : List LocationElement}
    (h : ((e₁ :: e₂ :: after).map LocationElement.kind).Nodup) : after = [] := by
  cases after with
  | nil => rfl
  | cons e₃ after =>
    simp only [map_cons, nodup_cons, mem_cons, not_or] at h
    obtain ⟨⟨h12, h13, -⟩, ⟨h23, -⟩, -⟩ := h
    cases hk₁ : e₁.kind <;> cases hk₂ : e₂.kind <;> cases hk₃ : e₃.kind <;> simp_all

/-- **Location elements.**  Nothing outside the attribute is read and both elements of a result are found iff the fields
that are printed are there, no element behind the record lacks its header, and the second of two elements is longer than
the record. -/
theorem rtt_elements_right_iff (layout : RttLayout) (payload : List UInt8) :
    ResultRight layout payload ↔ ResultRegular layout payload := by
  have hreads := reads_readResult layout (beginsWith_ofList payload)
  constructor
  · intro h
    obtain ⟨hheader, hprinted⟩ := hreads.fits_of h.inside
    refine ⟨by omega, hheader, ?_⟩
    intro e₁ e₂ hne hresult
    obtain ⟨found, hfound, hpointer⟩ := h.pointers [e₁] e₂ [] (by simp [hne]) hresult
    obtain rfl := Except.ok.inj ((hreads.eq_ok ⟨hheader, hprinted⟩).symm.trans hfound)
    rw [flatMap_singleton] at hpointer
    exact (hresult.second_iff hne).mp hpointer
  · intro h
    have hok := hreads.eq_ok ⟨h.header, by have := h.printed; omega⟩
    refine ⟨⟨_, hok⟩, ?_⟩
    intro before e after hnodup hresult
    refine ⟨_, hok, ?_⟩
    cases before with
    | nil =>
      obtain ⟨his, -, hlen⟩ := hresult.first
      have he := e.length_bytes
      exact (pointer_locationElements (by omega) his _).trans (if_pos rfl)
    | cons e₁ rest =>
      -- a second element is the last
      obtain ⟨rfl, rfl⟩ : rest = [] ∧ after = [] := by
        cases rest with
        | nil => exact ⟨rfl, eq_nil_of_nodup_kinds hnodup⟩
        | cons e₂ rest =>
          have hnil : rest ++ e :: after = [] := eq_nil_of_nodup_kinds hnodup
          simp at hnil
      have hne : e₁.kind ≠ e.kind := by simpa using hnodup
      rw [flatMap_singleton]
      exact (hresult.second_iff hne).mpr (h.second e₁ e hne hresult)

end Result

def smallLayout : RttLayout := ⟨16, 12, by decide, by decide⟩

def smallElement (kind : LocationKind) : LocationElement := ⟨kind, 0, 0, [1, 2], by decide⟩

/-- **The defects**: the second of two elements is not found; of a record with one byte behind it, and of an attribute
that is shorter than the record, more is read than there is. -/
theorem rtt_second_element_lost :
    (IsResult smallLayout [smallElement .lci, smallElement .civic]
        (List.replicate 16 0 ++ [smallElement .lci, smallElement .civic].flatMap LocationElement.bytes)
      ∧ readResult smallLayout
          (List.replicate 16 0 ++ [smallElement .lci, smallElement .civic].flatMap LocationElement.bytes)
            = .ok (some 16, none))
      ∧ readResult smallLayout (List.replicate 16 0 ++ [38]) = .error (.load 20 1 17)
      ∧ readResult smallLayout [0, 0] = .error (.load 0 12 2) :=
  ⟨⟨⟨List.replicate 16 0, by decide, rfl⟩, by decide +kernel⟩, by decide +kernel, by decide +kernel⟩

end Hal
