import DeviceHal.Core.Align

/-!
# The strides of a video buffer

`BufferInfo::updateVideoInfo` computes the two strides of a video buffer from its width and height and from the
alignments that the status word encodes, six bits for each of them.

**The defect.**  `ALIGN_CEIL` masks the low bits off, which is rounding for powers of two only; a field may encode any
even number up to 126.

* **`strides_least_iff`** — when the strides are the least multiples of the alignments.
-/

namespace Hal

/-- `ALIGN_CEIL`.  The sum is unsigned; what `1L` widens is cut off again when the result is stored in an `int`. -/
def alignCeil (x a : BitVec 32) : BitVec 32 := (x + a - 1#32) &&& ~~~(a - 1#32)

def symbol2align (x : BitVec 32) : BitVec 32 := if x = 0#32 then 1#32 else x <<< 1

/-- The field of the horizontal alignment in `videobuffer_status`. -/
def horizontalField (status : BitVec 32) : BitVec 32 := (status &&& 0x7FFFFFFF#32) >>> 25

/-- The field of the vertical alignment. -/
def verticalField (status : BitVec 32) : BitVec 32 := (status &&& 0x0007FFFF#32) >>> 13

/-- `BufferInfo`, the sizes; each is an `int`. -/
structure BufferInfo where
  mWidth : BitVec 32
  mHeight : BitVec 32
  mStride : BitVec 32
  mVStride : BitVec 32

/-- `updateVideoInfo`, with what the query returns: its error and `videobuffer_status`. -/
def BufferInfo.updateVideoInfo (b : BufferInfo) (err : ℤ) (status : BitVec 32) : ℤ × BufferInfo :=
  if err = 0 ∧ status &&& 0x80000000#32 ≠ 0#32 then
    (err,
      { b with
        mStride := alignCeil b.mWidth (symbol2align (horizontalField status))
        mVStride := alignCeil b.mHeight (symbol2align (verticalField status)) })
  else (err, b)

/-! ## What is asked -/

/-- The alignment that the value of a field stands for. -/
def encodedAlign (v : ℕ) : ℕ := if v = 0 then 1 else 2 * v

/-- The size is not negative, and so small that adding the alignment and taking one off again stays an `int`. -/
structure Fits (x : BitVec 32) (a : ℕ) : Prop where
  nonneg : 0 ≤ x.toInt
  sum_le : x.toInt + a - 1 ≤ 2147483647

/-- The stride is the least multiple of the alignment from the size on. -/
structure IsStride (a : ℕ) (size stride : BitVec 32) : Prop where
  nonneg : 0 ≤ stride.toInt
  least : IsAlignCeil a size.toInt.toNat stride.toInt.toNat

/-- The value of the field is 0 or a power of two. -/
def PowerField (f : BitVec 32) : Prop := f.toNat = 0 ∨ f.toNat.isPowerOfTwo

/-! ## One dimension -/

lemma horizontalField_lt (status : BitVec 32) : (horizontalField status).toNat < 64 := by
  have hle : (status &&& 0x7FFFFFFF#32).toNat ≤ 0x7FFFFFFF := by
    exact Nat.and_le_right
  rw [horizontalField, BitVec.toNat_ushiftRight, Nat.shiftRight_eq_div_pow]
  omega

lemma verticalField_lt (status : BitVec 32) : (verticalField status).toNat < 64 := by
  have hle : (status &&& 0x0007FFFF#32).toNat ≤ 0x0007FFFF := by
    exact Nat.and_le_right
  rw [verticalField, BitVec.toNat_ushiftRight, Nat.shiftRight_eq_div_pow]
  omega

lemma toNat_symbol2align {f : BitVec 32} (hf : f.toNat < 64) : (symbol2align f).toNat = encodedAlign f.toNat := by
  unfold symbol2align encodedAlign
  by_cases hzero : f = 0#32
  · simp [hzero]
  · have hne : f.toNat ≠ 0 := fun h => hzero (BitVec.eq_of_toNat_eq h)
    rw [if_neg hzero, if_neg hne, BitVec.toNat_shiftLeft, Nat.shiftLeft_eq]
    omega

lemma encodedAlign_pos (v : ℕ) : 0 < encodedAlign v := by
  unfold encodedAlign
  split_ifs <;> omega

lemma encodedAlign_le {v : ℕ} (hv : v < 64) : encodedAlign v ≤ 126 := by
  unfold encodedAlign
  split_ifs <;> omega

lemma isPowerOfTwo_encodedAlign {f : BitVec 32} : (encodedAlign f.toNat).isPowerOfTwo ↔ PowerField f := by
  unfold encodedAlign PowerField
  by_cases hzero : f.toNat = 0
  · simp [hzero, Nat.isPowerOfTwo_one]
  · simp only [hzero, if_false, false_or]
    constructor
    · rintro ⟨k, hk⟩
      cases k with
      | zero => omega
      | succ k => exact ⟨k, by rw [Nat.pow_succ] at hk; omega⟩
    · intro h
      rw [Nat.mul_comm]
      exact Nat.isPowerOfTwo_mul_two_of_isPowerOfTwo h

lemma Fits.toInt_eq {x : BitVec 32} {a : ℕ} (h : Fits x a) : x.toInt = x.toNat := by
  have hnonneg := h.nonneg
  rw [BitVec.toInt_eq_toNat_cond] at hnonneg ⊢
  split_ifs at hnonneg ⊢ <;> omega

lemma toInt_eq_toNat {y : BitVec 32} (hy : y.toNat ≤ 2147483647) : y.toInt = y.toNat := by
  rw [BitVec.toInt_eq_toNat_cond]
  split_ifs <;> omega

/-- **A power of two** rounds as it should. -/
lemma isStride_alignCeil {x a : BitVec 32} (ha : a.toNat.isPowerOfTwo) (hfits : Fits x a.toNat) :
    IsStride a.toNat x (alignCeil x a) := by
  have hpos : 0 < a.toNat := Nat.pos_of_isPowerOfTwo ha
  have hx := hfits.toInt_eq
  have hsum := hfits.sum_le
  have hadd : (x + a - 1#32).toNat = x.toNat + a.toNat - 1 := by
    have hsum' : (x + a).toNat = x.toNat + a.toNat := by
      rw [BitVec.toNat_add, Nat.mod_eq_of_lt (by omega)]
    rw [toNat_sub_one (by omega), hsum']
  have hround : (alignCeil x a).toNat = (x.toNat + a.toNat - 1) / a.toNat * a.toNat := by
    rw [alignCeil, toNat_and_not_sub_one ha, hadd]
  have hle : (alignCeil x a).toNat ≤ x.toNat + a.toNat - 1 := by
    rw [hround]
    exact Nat.div_mul_le_self _ _
  have hstride : (alignCeil x a).toInt = (alignCeil x a).toNat := toInt_eq_toNat (by omega)
  refine ⟨by omega, ?_⟩
  rw [hstride, hx, Int.toNat_natCast, Int.toNat_natCast, hround]
  exact isAlignCeil_div_mul hpos x.toNat

/-- **No other alignment** rounds the size 1 as it should. -/
lemma isPowerOfTwo_of_isStride_one {a : BitVec 32} (hpos : 0 < a.toNat) (h : IsStride a.toNat 1#32 (alignCeil 1#32 a)) :
    a.toNat.isPowerOfTwo := by
  have hself : alignCeil 1#32 a = a &&& ~~~(a - 1#32) := by
    rw [alignCeil, BitVec.add_comm, BitVec.add_sub_cancel]
  have heq : (alignCeil 1#32 a).toInt.toNat = a.toNat := IsLeast.unique h.least (isAlignCeil_one hpos)
  have hnat : (alignCeil 1#32 a).toNat = a.toNat := by
    have hnonneg := h.nonneg
    rw [BitVec.toInt_eq_toNat_cond] at hnonneg heq
    split_ifs at hnonneg heq <;> omega
  rw [hself] at hnat
  exact isPowerOfTwo_of_and_not_sub_one hpos (BitVec.eq_of_toNat_eq hnat)

lemma fits_one {v : ℕ} (hv : v < 64) : Fits 1#32 (encodedAlign v) := by
  have hle := encodedAlign_le hv
  refine ⟨by decide, ?_⟩
  show (1 : ℤ) + encodedAlign v - 1 ≤ 2147483647
  omega

/-- **One alignment, over all sizes.** -/
lemma alignCeil_right_iff {f : BitVec 32} (hf : f.toNat < 64) :
    (∀ x, Fits x (encodedAlign f.toNat) → IsStride (encodedAlign f.toNat) x (alignCeil x (symbol2align f)))
      ↔ PowerField f := by
  rw [← isPowerOfTwo_encodedAlign, ← toNat_symbol2align hf]
  constructor
  · intro h
    refine isPowerOfTwo_of_isStride_one ?_ (h 1#32 ?_)
    · rw [toNat_symbol2align hf]
      exact encodedAlign_pos f.toNat
    · rw [toNat_symbol2align hf]
      exact fits_one hf
  · intro h x hx
    exact isStride_alignCeil h hx

/-! ## Both dimensions -/

namespace BufferInfo

/-- The sizes are such that no sum overflows, for the alignments that the status encodes. -/
structure SizesFit (b : BufferInfo) (status : BitVec 32) : Prop where
  width : Fits b.mWidth (encodedAlign (horizontalField status).toNat)
  height : Fits b.mHeight (encodedAlign (verticalField status).toNat)

/-- The two strides are what they should be for the sizes. -/
structure StridesRight (b : BufferInfo) (status : BitVec 32) : Prop where
  stride : IsStride (encodedAlign (horizontalField status).toNat) b.mWidth b.mStride
  vstride : IsStride (encodedAlign (verticalField status).toNat) b.mHeight b.mVStride

lemma updateVideoInfo_valid {status : BitVec 32} (hvalid : status &&& 0x80000000#32 ≠ 0#32) (b : BufferInfo) :
    b.updateVideoInfo 0 status
      = (0,
        { b with
          mStride := alignCeil b.mWidth (symbol2align (horizontalField status))
          mVStride := alignCeil b.mHeight (symbol2align (verticalField status)) }) := if_pos ⟨rfl, hvalid⟩

/-- **The strides of video buffers.**  For a status word with the valid bit, the strides are the least multiples of the
encoded alignments that are at least the width and the height, whatever these are, iff each field is 0 or a power of
two. -/
theorem strides_least_iff {status : BitVec 32} (hvalid : status &&& 0x80000000#32 ≠ 0#32) :
    (∀ b : BufferInfo, b.SizesFit status → (b.updateVideoInfo 0 status).2.StridesRight status)
      ↔ PowerField (horizontalField status) ∧ PowerField (verticalField status) := by
  have hh := horizontalField_lt status
  have hv := verticalField_lt status
  rw [← alignCeil_right_iff hh, ← alignCeil_right_iff hv]
  constructor
  · intro h
    -- the other dimension is 1
    constructor
    · intro x hx
      have hright := h ⟨x, 1#32, 0#32, 0#32⟩ ⟨hx, fits_one hv⟩
      rw [updateVideoInfo_valid hvalid] at hright
      exact hright.stride
    · intro x hx
      have hright := h ⟨1#32, x, 0#32, 0#32⟩ ⟨fits_one hh, hx⟩
      rw [updateVideoInfo_valid hvalid] at hright
      exact hright.vstride
  · rintro ⟨hwidth, hheight⟩ b ⟨hfitw, hfith⟩
    rw [updateVideoInfo_valid hvalid]
    exact ⟨hwidth b.mWidth hfitw, hheight b.mHeight hfith⟩

/-- An alignment of 32 in both directions. -/
theorem strides_least_thirtyTwo :
    (0xA0020000#32 &&& 0x80000000#32 ≠ 0#32)
      ∧ ∀ b : BufferInfo, b.SizesFit 0xA0020000#32 → (b.updateVideoInfo 0 0xA0020000#32).2.StridesRight 0xA0020000#32 :=
  ⟨by decide, (strides_least_iff (by decide)).mpr ⟨Or.inr ⟨4, by decide⟩, Or.inr ⟨4, by decide⟩⟩⟩

/-- **The defect**: the field 3 stands for the alignment 6.  The stride for a width of 7 should be 12 and is 8, which is
no multiple of 6. -/
theorem stride_not_multiple :
    (⟨7#32, 1#32, 0#32, 0#32⟩ : BufferInfo).SizesFit 0x86000000#32
      ∧ ((⟨7#32, 1#32, 0#32, 0#32⟩ : BufferInfo).updateVideoInfo 0 0x86000000#32).2.mStride = 8#32
      ∧ encodedAlign (horizontalField 0x86000000#32).toNat = 6
      ∧ ¬ ((⟨7#32, 1#32, 0#32, 0#32⟩ : BufferInfo).updateVideoInfo 0 0x86000000#32).2.StridesRight 0x86000000#32 := by
  refine ⟨⟨⟨by decide, by decide⟩, ⟨by decide, by decide⟩⟩, by decide, by decide, fun h => ?_⟩
  have hdvd : 6 ∣ 8 := h.stride.least.1.1
  exact absurd hdvd (by decide)

end BufferInfo

end Hal
