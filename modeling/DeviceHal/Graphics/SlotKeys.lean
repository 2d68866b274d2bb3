import Mathlib.Algebra.Group.Nat.Defs
import DeviceHal.Graphics.PoolIds
import DeviceHal.Graphics.ConsumerClient

/-!
# The numbers of slots

A pool item and the client of a consumer keep a slot for every buffer, under a number that is put together from usage,
display type and index, the client's with the number of the pool in front: `(usage << 6) | (type << 3) | idx`.  Nothing
keeps an index below the bits that are set above it: the number of buffers of a display is what `configDisplay` is
given, if it is not 0.

**The defect.**  With nine buffers the last one of the primary display has the number of the first one of the external
display, and `prepareBuffer` makes one slot for the two.

* `Accepted` — what `configDisplay` lets in.
* `HasRoom` — how many buffers each display can have, for the displays there are.
* **`slots_own_iff`** — different buffers have different numbers, in a pool item and in a client, and slots of their
  own **iff** there is room.
-/

namespace Hal

open List SortedVector

def hwcDisplayExternal : ℕ := 1

def hwcDisplayVirtual : ℕ := 2

/-- A list of displays as `configDisplay` can have made it: types that there are, and numbers of buffers that are a
`uint32_t` and not 0. -/
structure Accepted (displays : KeyedVector ℕ) : Prop where
  type_lt : ∀ e ∈ displays.entries, e.1 < hwcNumDisplayTypes
  num_pos : ∀ e ∈ displays.entries, 0 < e.2
  num_lt : ∀ e ∈ displays.entries, e.2 < 4294967296

/-- The buffer is one of a display, for one of the two usages. -/
structure BufferOf (displays : KeyedVector ℕ) (b : BufferId) : Prop where
  usage_lt : b.usage < guiExtUsageMax
  idx_lt : ∃ n, displays.valueFor b.type = some n ∧ b.idx < n

/-- A buffer as a client of the pool with this number knows it. -/
def BufferId.inPool (b : BufferId) (poolId : ℕ) : BufferRef := ⟨⟨poolId, b.usage, b.type⟩, b.idx⟩

/-- What is asked.  The numbers of pools are from 1 to 10; a buffer that is prepared is for the display. -/
structure OwnSlots (displays : KeyedVector ℕ) : Prop where
  item : ∀ b b', BufferOf displays b → BufferOf displays b' → b.key = b'.key → b = b'
  client : ∀ b b' id id', BufferOf displays b → BufferOf displays b' → 1 ≤ id → id ≤ maxAllocSize → 1 ≤ id' →
    id' ≤ maxAllocSize → (b.inPool id).key = (b'.inPool id').key → b = b' ∧ id = id'
  slot : ∀ token b, BufferOf displays b → b.usage = guiExtUsageHwc →
    (PoolItem.make token true displays).mConsumerList.valueFor b.key = some ⟨b, none⟩

/-- How many buffers the displays can have. -/
structure HasRoom (displays : KeyedVector ℕ) : Prop where
  primary : ∀ n, displays.valueFor hwcDisplayPrimary = some n → n ≤ 64
  primary_external : ∀ n n', displays.valueFor hwcDisplayPrimary = some n →
    displays.valueFor hwcDisplayExternal = some n' → n ≤ 8
  primary_virtual : ∀ n n', displays.valueFor hwcDisplayPrimary = some n →
    displays.valueFor hwcDisplayVirtual = some n' → n ≤ 16
  external : ∀ n, displays.valueFor hwcDisplayExternal = some n → n ≤ 8
  virtual : ∀ n, displays.valueFor hwcDisplayVirtual = some n → n ≤ 16

/-- **`configDisplay` keeps to this**, for the types that there are. -/
lemma Accepted.configDisplay {s : PoolState} (h : Accepted s.mDisplayList) {type : ℕ}
    (htype : type < hwcNumDisplayTypes) (enable : Bool) (w height : ℕ) {bufNum : ℕ} (hnum : bufNum < 4294967296) :
    Accepted (s.configDisplay type enable w height bufNum).mDisplayList := by
  unfold PoolState.configDisplay
  split_ifs with hoff
  · cases s.mDisplayList.valueFor type with
    | none => exact h
    | some n =>
      have hold : ∀ e ∈ (s.mDisplayList.removeItem type).entries, e ∈ s.mDisplayList.entries :=
        fun e he => (mem_filter.mp he).1
      exact ⟨fun e he => h.type_lt e (hold e he), fun e he => h.num_pos e (hold e he),
        fun e he => h.num_lt e (hold e he)⟩
  · have hpos : 0 < bufNum := Nat.pos_of_ne_zero fun hzero => hoff (by simp [hzero])
    have hnew : ∀ {P : ℕ × ℕ → Prop}, P (type, bufNum) → (∀ e ∈ s.mDisplayList.entries, P e) →
        ∀ e ∈ (s.mDisplayList.add type bufNum).entries, P e := by
      intro P hP hall e he
      rcases mem_add.mp he with rfl | ⟨hmem, -⟩
      · exact hP
      · exact hall e hmem
    exact ⟨hnew htype h.type_lt, hnew hpos h.num_pos, hnew hnum h.num_lt⟩

/-! ## The numbers -/

section Keys

variable {displays : KeyedVector ℕ} {b b' : BufferId}

lemma BufferOf.type_cases (haccepted : Accepted displays) (h : BufferOf displays b) :
    b.type = hwcDisplayPrimary ∨ b.type = hwcDisplayExternal ∨ b.type = hwcDisplayVirtual := by
  obtain ⟨n, hn, -⟩ := h.idx_lt
  have hlt : b.type < 3 := haccepted.type_lt (b.type, n) (valueFor_eq_some.mp hn)
  show b.type = 0 ∨ b.type = 1 ∨ b.type = 2
  omega

lemma shiftLeft_or_eq_add {a b i : ℕ} (hb : b < 2 ^ i) : a <<< i ||| b = 2 ^ i * a + b := by
  rw [Nat.shiftLeft_eq, Nat.mul_comm]
  exact (Nat.two_pow_add_eq_or_of_lt hb a).symm

/-- The bits for type and index, where the index stays below those of the type. -/
lemma type_or_idx {type idx : ℕ} (h : (type = 0 ∧ idx < 64) ∨ (type = 1 ∧ idx < 8) ∨ (type = 2 ∧ idx < 16)) :
    type <<< 3 ||| idx = 8 * type + idx ∧ 8 * type + idx < 64 := by
  rcases h with ⟨rfl, hidx⟩ | ⟨rfl, hidx⟩ | ⟨rfl, hidx⟩
  · exact ⟨by simp, by omega⟩
  · exact ⟨shiftLeft_or_eq_add hidx, by omega⟩
  · -- 2 <<< 3 is 1 <<< 4, which leaves a bit more
    exact ⟨shiftLeft_or_eq_add (a := 1) (i := 4) hidx, by omega⟩

/-- An index of the primary display also stays below what another display that there is begins with. -/
lemma HasRoom.primary_idx_lt (hroom : HasRoom displays) (h : BufferOf displays b) (h' : BufferOf displays b')
    (hzero : b.type = 0) : (b'.type = 1 → b.idx < 8) ∧ (b'.type = 2 → b.idx < 16) := by
  obtain ⟨n, hn, hlt⟩ := h.idx_lt
  obtain ⟨n', hn', -⟩ := h'.idx_lt
  rw [hzero] at hn
  constructor
  · intro hone
    rw [hone] at hn'
    exact Nat.lt_of_lt_of_le hlt (hroom.primary_external n n' hn hn')
  · intro htwo
    rw [htwo] at hn'
    exact Nat.lt_of_lt_of_le hlt (hroom.primary_virtual n n' hn hn')

variable (hroom : HasRoom displays) (haccepted : Accepted displays) (h : BufferOf displays b)

include hroom haccepted h

/-- Where there is room the parts of a number are added, and an index is below what the type leaves. -/
lemma HasRoom.idx_lt :
    (b.type = 0 ∧ b.idx < 64) ∨ (b.type = 1 ∧ b.idx < 8) ∨ (b.type = 2 ∧ b.idx < 16) := by
  obtain ⟨n, hn, hlt⟩ := h.idx_lt
  rcases h.type_cases haccepted with htype | htype | htype
  · exact .inl ⟨htype, Nat.lt_of_lt_of_le hlt (hroom.primary n (htype ▸ hn))⟩
  · exact .inr (.inl ⟨htype, Nat.lt_of_lt_of_le hlt (hroom.external n (htype ▸ hn))⟩)
  · exact .inr (.inr ⟨htype, Nat.lt_of_lt_of_le hlt (hroom.virtual n (htype ▸ hn))⟩)

lemma HasRoom.key_eq : b.key = 64 * b.usage + (8 * b.type + b.idx) := by
  obtain ⟨hor, hlt⟩ := type_or_idx (hroom.idx_lt haccepted h)
  have husage : b.usage < 2 := h.usage_lt
  have hsum : b.usage <<< 6 ||| (8 * b.type + b.idx) = 64 * b.usage + (8 * b.type + b.idx) := shiftLeft_or_eq_add hlt
  rw [BufferId.key, poolCombinedId, Nat.or_assoc, hor, hsum]
  exact Nat.mod_eq_of_lt (by omega)

lemma HasRoom.client_key_eq {id : ℕ} (hid : id ≤ maxAllocSize) : (b.inPool id).key = 1024 * id + (64 * b.usage + (8 * b.type + b.idx)) := by
  obtain ⟨hor, hlt⟩ := type_or_idx (hroom.idx_lt haccepted h)
  have husage : b.usage < 2 := h.usage_lt
  have hid' : id ≤ 10 := hid
  have hsum : b.usage <<< 6 ||| (8 * b.type + b.idx) = 64 * b.usage + (8 * b.type + b.idx) := shiftLeft_or_eq_add hlt
  have hsum' : id <<< 10 ||| (64 * b.usage + (8 * b.type + b.idx))
      = 1024 * id + (64 * b.usage + (8 * b.type + b.idx)) := shiftLeft_or_eq_add (by omega)
  rw [BufferRef.key, BufferId.inPool, Nat.or_assoc, Nat.or_assoc, hor, hsum, hsum']
  exact Nat.mod_eq_of_lt (by omega)

lemma HasRoom.type_idx_eq (h' : BufferOf displays b') (hsum : 8 * b.type + b.idx = 8 * b'.type + b'.idx) :
    b.type = b'.type ∧ b.idx = b'.idx := by
  rcases hroom.idx_lt haccepted h with ⟨htype, hidx⟩ | ⟨htype, hidx⟩ | ⟨htype, hidx⟩
  · obtain ⟨hone, htwo⟩ := hroom.primary_idx_lt h h' htype
    rcases hroom.idx_lt haccepted h' with ⟨htype', -⟩ | ⟨htype', -⟩ | ⟨htype', -⟩
    · omega
    · omega
    · omega
  · rcases hroom.idx_lt haccepted h' with ⟨htype', -⟩ | ⟨htype', -⟩ | ⟨htype', -⟩
    · have hlt := (hroom.primary_idx_lt h' h htype').1 htype
      omega
    · omega
    · omega
  · rcases hroom.idx_lt haccepted h' with ⟨htype', -⟩ | ⟨htype', hidx'⟩ | ⟨htype', -⟩
    · have hlt := (hroom.primary_idx_lt h' h htype').2 htype
      omega
    · omega
    · omega

/-- **Where there is room**, usage, type and index can be read off the sum. -/
lemma HasRoom.eq_of_sum_eq (h' : BufferOf displays b')
    (hsum : 64 * b.usage + (8 * b.type + b.idx) = 64 * b'.usage + (8 * b'.type + b'.idx)) : b = b' := by
  have hlt := (type_or_idx (hroom.idx_lt haccepted h)).2
  have hlt' := (type_or_idx (hroom.idx_lt haccepted h')).2
  have husage : b.usage = b'.usage := by omega
  obtain ⟨htype, hidx⟩ := hroom.type_idx_eq haccepted h h' (by omega)
  cases b
  simp only at husage htype hidx
  rw [husage, htype, hidx]

end Keys

/-! ## The slots -/

namespace PoolItem

variable {slots : KeyedVector ConsumerSlot}

lemma prepareSlot_of_some {k : ℕ} {slot : ConsumerSlot}
    (h : slots.valueFor k = some slot) (b : BufferId) : (prepareSlot slots b).valueFor k = some slot := by
  unfold prepareSlot
  split
  case h_1 hnone =>
    rw [valueFor_add, if_neg, h]
    rintro rfl
    rw [h] at hnone
    exact Option.some_ne_none slot hnone
  case h_2 => exact h

lemma foldl_prepareSlot_of_some {k : ℕ} {slot : ConsumerSlot} (bs : List BufferId)
    (h : slots.valueFor k = some slot) : (bs.foldl prepareSlot slots).valueFor k = some slot :=
  List.foldlRecOn bs prepareSlot (motive := fun slots => slots.valueFor k = some slot) h
    fun _ hslots b _ => prepareSlot_of_some hslots b

variable {b : BufferId}

/-- **A buffer gets a slot of its own** if none is under its number yet and no other buffer has the number. -/
lemma foldl_prepareSlot_own {bs : List BufferId} (hb : b ∈ bs)
    (hkeys : ∀ b' ∈ bs, b'.key = b.key → b' = b) (hnone : slots.valueFor b.key = none) :
    (bs.foldl prepareSlot slots).valueFor b.key = some ⟨b, none⟩ := by
  induction bs generalizing slots with
  | nil => exact absurd hb not_mem_nil
  | cons c bs ih =>
    by_cases hkey : c.key = b.key
    · obtain rfl := hkeys c mem_cons_self hkey
      refine foldl_prepareSlot_of_some bs ?_
      unfold prepareSlot
      rw [hnone]
      simp [valueFor_add]
    · have hne : b ≠ c := fun h => hkey (h ▸ rfl)
      refine ih ((mem_cons.mp hb).resolve_left hne) (fun b' hb' => hkeys b' (mem_cons_of_mem c hb')) ?_
      unfold prepareSlot
      cases slots.valueFor c.key with
      | none => rw [valueFor_add, if_neg (Ne.symm hkey), hnone]
      | some slot => exact hnone

/-- The buffers that `prepareBuffer` goes through. -/
def toPrepare (queues : KeyedVector ℕ) : List BufferId :=
  queues.entries.flatMap fun e => (List.range e.2).map fun i => ⟨guiExtUsageHwc, e.1, i⟩

lemma prepareBuffer_eq (queues : KeyedVector ℕ) :
    prepareBuffer queues = (toPrepare queues).foldl prepareSlot .empty := by
  rw [toPrepare, foldl_flatMap]
  simp only [foldl_map]
  rfl

lemma mem_toPrepare {queues : KeyedVector ℕ} :
    b ∈ toPrepare queues ↔ b.usage = guiExtUsageHwc ∧ BufferOf queues b := by
  simp only [toPrepare, mem_flatMap, mem_map, mem_range]
  constructor
  · rintro ⟨⟨type, n⟩, he, i, hi, rfl⟩
    exact ⟨rfl, (by decide : guiExtUsageHwc < guiExtUsageMax), n, valueFor_eq_some.mpr he, hi⟩
  · rintro ⟨husage, -, n, hn, hi⟩
    refine ⟨(b.type, n), valueFor_eq_some.mp hn, b.idx, hi, ?_⟩
    rw [← husage]

/-- **Where the numbers differ every buffer gets a slot of its own.** -/
lemma prepareBuffer_own {queues : KeyedVector ℕ}
    (hkeys : ∀ b b', BufferOf queues b → BufferOf queues b' → b.key = b'.key → b = b')
    (hb : BufferOf queues b) (husage : b.usage = guiExtUsageHwc) :
    (prepareBuffer queues).valueFor b.key = some ⟨b, none⟩ := by
  rw [prepareBuffer_eq]
  refine foldl_prepareSlot_own (mem_toPrepare.mpr ⟨husage, hb⟩) (fun b' hb' hkey => ?_) (valueFor_empty _)
  exact hkeys b' b (mem_toPrepare.mp hb').2 hb hkey

end PoolItem

/-! ## Both -/

lemma not_lt_of_key_eq {displays : KeyedVector ℕ}
    (hkeys : ∀ b b', BufferOf displays b → BufferOf displays b' → b.key = b'.key → b = b') (b b' : BufferId) {n n' : ℕ}
    (husage : b.usage < guiExtUsageMax) (husage' : b'.usage < guiExtUsageMax)
    (hn : displays.valueFor b.type = some n) (hn' : displays.valueFor b'.type = some n') (hidx' : b'.idx < n')
    (hkey : b.key = b'.key) (hne : b ≠ b') : n ≤ b.idx := by
  by_contra hlt
  exact hne (hkeys b b' ⟨husage, n, hn, Nat.lt_of_not_le hlt⟩ ⟨husage', n', hn', hidx'⟩ hkey)

/-- **The slots of buffers.**  For displays that `configDisplay` lets in, different buffers have different numbers in a
pool item and, with the number of the pool, in a client, so that each has its own slot, iff there is room. -/
theorem slots_own_iff {displays : KeyedVector ℕ} (haccepted : Accepted displays) :
    OwnSlots displays ↔ HasRoom displays := by
  have hpos : ∀ {type n}, displays.valueFor type = some n → 0 < n := fun hn =>
    haccepted.num_pos _ (valueFor_eq_some.mp hn)
  constructor
  · intro hown
    have hcollide := not_lt_of_key_eq hown.item
    -- for each bound the first buffer beyond it, and the one whose number it has
    constructor
    · intro n hn
      exact hcollide ⟨0, 0, 64⟩ ⟨1, 0, 0⟩ (by decide) (by decide) hn hn (hpos hn) (by decide) (by decide)
    · intro n n' hn hn'
      exact hcollide ⟨1, 0, 8⟩ ⟨1, 1, 0⟩ (by decide) (by decide) hn hn' (hpos hn') (by decide) (by decide)
    · intro n n' hn hn'
      exact hcollide ⟨1, 0, 16⟩ ⟨1, 2, 0⟩ (by decide) (by decide) hn hn' (hpos hn') (by decide)
        (by decide)
    · intro n hn
      exact hcollide ⟨1, 1, 8⟩ ⟨1, 1, 0⟩ (by decide) (by decide) hn hn (hpos hn) (by decide) (by decide)
    · intro n hn
      exact hcollide ⟨1, 2, 16⟩ ⟨1, 2, 0⟩ (by decide) (by decide) hn hn (hpos hn) (by decide) (by decide)
  · intro hroom
    have hkeys : ∀ b b', BufferOf displays b → BufferOf displays b' → b.key = b'.key → b = b' := by
      intro b b' hb hb' hkey
      rw [hroom.key_eq haccepted hb, hroom.key_eq haccepted hb'] at hkey
      exact hroom.eq_of_sum_eq haccepted hb hb' hkey
    refine ⟨hkeys, ?_, fun token b hb husage => PoolItem.prepareBuffer_own hkeys hb husage⟩
    intro b b' id id' hb hb' _ hid _ hid' hkey
    rw [hroom.client_key_eq haccepted hb hid, hroom.client_key_eq haccepted hb' hid'] at hkey
    have hlt := (type_or_idx (hroom.idx_lt haccepted hb)).2
    have hlt' := (type_or_idx (hroom.idx_lt haccepted hb')).2
    have husage : b.usage < 2 := hb.usage_lt
    have husage' : b'.usage < 2 := hb'.usage_lt
    exact ⟨hroom.eq_of_sum_eq haccepted hb hb' (by omega), by omega⟩

/-- Three buffers for each display. -/
theorem slots_own_three :
    Accepted (((SortedVector.empty.add 0 3).add 1 3).add 2 3)
      ∧ OwnSlots (((SortedVector.empty.add 0 3).add 1 3).add 2 3) := by
  have haccepted : Accepted (((SortedVector.empty.add 0 3).add 1 3).add 2 3) := ⟨by decide, by decide, by decide⟩
  have hthree : ∀ e ∈ (((SortedVector.empty.add 0 3).add 1 3).add 2 3 : KeyedVector ℕ).entries, e.2 = 3 := by decide
  have hnum : ∀ type n, (((SortedVector.empty.add 0 3).add 1 3).add 2 3 : KeyedVector ℕ).valueFor type = some n →
      n = 3 := fun type n hn => hthree (type, n) (valueFor_eq_some.mp hn)
  refine ⟨haccepted, (slots_own_iff haccepted).mpr ⟨?_, ?_, ?_, ?_, ?_⟩⟩
  · intro n hn
    exact hnum _ n hn ▸ (by decide : 3 ≤ 64)
  · intro n n' hn _
    exact hnum _ n hn ▸ (by decide : 3 ≤ 8)
  · intro n n' hn _
    exact hnum _ n hn ▸ (by decide : 3 ≤ 16)
  · intro n hn
    exact hnum _ n hn ▸ (by decide : 3 ≤ 8)
  · intro n hn
    exact hnum _ n hn ▸ (by decide : 3 ≤ 16)

/-- Nine buffers for the primary display, which the first `alloc` has given three, and one for the external display. -/
def nineAndOne : KeyedVector ℕ :=
  (((PoolState.start.alloc 7 0).configDisplay 0 true 720 1280 9).configDisplay 1 true 1920 1080 1).mDisplayList

/-- **The defect**: the ninth buffer of the primary display has the number of the first one of the external display, in
the item and in the client, and the item has one slot for both. -/
theorem ninth_buffer_shares_slot :
    Accepted nineAndOne
      ∧ (⟨1, 0, 8⟩ : BufferId).key = (⟨1, 1, 0⟩ : BufferId).key
      ∧ ((⟨1, 0, 8⟩ : BufferId).inPool 1).key = ((⟨1, 1, 0⟩ : BufferId).inPool 1).key
      ∧ (PoolItem.make 7 true nineAndOne).mConsumerList.valueFor (⟨1, 1, 0⟩ : BufferId).key = some ⟨⟨1, 0, 8⟩, none⟩
      ∧ ¬ OwnSlots nineAndOne := by
  have hkey : (⟨1, 0, 8⟩ : BufferId).key = (⟨1, 1, 0⟩ : BufferId).key := by decide
  refine ⟨⟨by decide, by decide, by decide⟩, hkey, by decide, by decide +kernel, fun hown => ?_⟩
  have hninth : BufferOf nineAndOne ⟨1, 0, 8⟩ := ⟨by decide, 9, by decide, by decide⟩
  have hfirst : BufferOf nineAndOne ⟨1, 1, 0⟩ := ⟨by decide, 1, by decide, by decide⟩
  have heq := hown.item ⟨1, 0, 8⟩ ⟨1, 1, 0⟩ hninth hfirst hkey
  exact absurd heq (by decide)

end Hal
