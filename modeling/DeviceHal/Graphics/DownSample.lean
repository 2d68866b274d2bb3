import DeviceHal.Core.Copies

/-!
# Cropped and down-sampled copies of a buffer

`GraphicBufferUtil::downSampleCopy` copies a rectangle of a buffer to another one, every `mDownSampleX`-th pixel of
every `mDownSampleY`-th row.  It first brings the rectangle and the two steps into range (`adjust`); if there is
nothing to crop or to leave out it copies the buffer in one piece, otherwise row by row, or pixel by pixel if
pixels are left out of a row.

**The defect.**  The loop over the pixels of a row starts at the left edge of the rectangle and the copy in it adds
the left edge once more.

* `Sampled` — the pixels of the destination are those they should be, and no other places are read.
* **`downSampleCopy_sampled_iff`** — when that holds for any contents of the source.
-/

namespace Hal

/-- The formats that the code tells apart.  `bgrx8888` is the one it has as `0x1ff`. -/
inductive PixelFormat where
  | rgba8888
  | rgbx8888
  | bgra8888
  | bgrx8888
  | rgb888
  | rgb565
  | yuyv
  | nv12Blk10bitH
  | nv12Blk10bitV
  | ufo10bitH
  | ufo10bitV
  | yuvPrivate10bit
  | i420
  | nv12Blk
  | nv12BlkFcm
  | yv12
  | yuvPrivate
  | yCbCr420888
  | unknown (format : ℤ)
deriving DecidableEq

def isSupportedFormat : PixelFormat → Bool
  | .rgba8888 | .rgbx8888 | .bgra8888 | .bgrx8888 | .rgb888 | .rgb565 | .yuyv | .yv12 | .yCbCr420888 | .i420 => true
  | _ => false

def getBitsPerPixel : PixelFormat → ℤ
  | .rgba8888 | .rgbx8888 | .bgra8888 | .bgrx8888 => 32
  | .rgb888 => 24
  | .rgb565 | .yuyv => 16
  | .nv12Blk10bitH | .nv12Blk10bitV | .ufo10bitH | .ufo10bitV | .yuvPrivate10bit => 15
  | .i420 | .nv12Blk | .nv12BlkFcm | .yv12 | .yuvPrivate | .yCbCr420888 => 12
  | .unknown _ => 0

structure Rect where
  left : ℤ
  top : ℤ
  right : ℤ
  bottom : ℤ

namespace Rect

def IsEmpty (r : Rect) : Prop := r.left ≥ r.right ∨ r.top ≥ r.bottom

instance (r : Rect) : Decidable r.IsEmpty := inferInstanceAs (Decidable (_ ∨ _))

def getWidth (r : Rect) : ℤ := r.right - r.left

def getHeight (r : Rect) : ℤ := r.bottom - r.top

end Rect

structure DownSampleConfig where
  mDownSampleX : ℤ
  mDownSampleY : ℤ
  mCrop : Rect

/-- The source: size and format as the `GraphicBuffer` has them, and what `getInfo` says. -/
structure SourceBuffer where
  width : ℤ
  height : ℤ
  format : PixelFormat
  mFormat : PixelFormat
  mStride : ℤ
  mVStride : ℤ

/-- A destination.  A row has room for the width. -/
structure DestBuffer where
  width : ℤ
  height : ℤ
  format : PixelFormat
  mStride : ℤ
  width_le : width ≤ mStride

/-- `new GraphicBuffer`, with a stride that is up to the allocator. -/
structure Allocator where
  make : ℤ → ℤ → PixelFormat → DestBuffer
  width_eq : ∀ w h format, (make w h format).width = w
  height_eq : ∀ w h format, (make w h format).height = h

/-! ## What is copied -/

def adjust (config : DownSampleConfig) (src : SourceBuffer) : DownSampleConfig where
  mDownSampleX := if config.mDownSampleX ≤ 0 ∨ isSupportedFormat src.mFormat = false then 1 else config.mDownSampleX
  mDownSampleY := if config.mDownSampleY ≤ 0 ∨ isSupportedFormat src.mFormat = false then 1 else config.mDownSampleY
  mCrop :=
    let crop := config.mCrop
    if crop.IsEmpty ∨ isSupportedFormat src.mFormat = false then ⟨0, 0, src.mStride, src.mVStride⟩
    else
      let left := if crop.left ≥ 0 ∧ crop.left < src.mStride then crop.left else 0
      let top := if crop.top ≥ 0 ∧ crop.top < src.mVStride then crop.top else 0
      let right := if crop.right < src.mStride ∧ crop.right > left then crop.right else src.mStride
      let bottom := if crop.bottom < src.mVStride ∧ crop.bottom > top then crop.bottom else src.mVStride
      ⟨left, top, right, bottom⟩

/-- The rectangle is in the buffer and not empty. -/
structure CropOk (src : SourceBuffer) (crop : Rect) : Prop where
  left_nonneg : 0 ≤ crop.left
  left_lt : crop.left < crop.right
  right_le : crop.right ≤ src.mStride
  top_nonneg : 0 ≤ crop.top
  top_lt : crop.top < crop.bottom
  bottom_le : crop.bottom ≤ src.mVStride

/-- **The rectangle that is used is in range.** -/
lemma adjust_cropOk (config : DownSampleConfig) (src : SourceBuffer) (hstride : 1 ≤ src.mStride)
    (hvstride : 1 ≤ src.mVStride) : CropOk src (adjust config src).mCrop := by
  simp only [adjust]
  split_ifs <;> constructor <;> simp only [] <;> omega

/-- The copy is not of the whole buffer. -/
def Effective (src : SourceBuffer) (config : DownSampleConfig) : Prop :=
  ¬ (config.mDownSampleX = 1 ∧ config.mDownSampleY = 1 ∧ src.mStride = config.mCrop.getWidth
    ∧ src.mVStride = config.mCrop.getHeight)

instance (src : SourceBuffer) (config : DownSampleConfig) : Decidable (Effective src config) :=
  inferInstanceAs (Decidable (¬ _))

def newWidth (config : DownSampleConfig) : ℤ := (config.mCrop.getWidth - 1) / config.mDownSampleX + 1

def newHeight (config : DownSampleConfig) : ℤ := (config.mCrop.getHeight - 1) / config.mDownSampleY + 1

/-- `bits >> 3`. -/
def bytesPerPixel (format : PixelFormat) : ℤ := getBitsPerPixel format / 8

/-- What the two loops read: the configuration that is used, the strides and the size of a pixel. -/
structure CopyLoops where
  config : DownSampleConfig
  stride : ℤ
  newStride : ℤ
  bytesPerPixel : ℤ

namespace CopyLoops

def rowCopy (l : CopyLoops) (y y0 : ℤ) : Memcpy where
  dst := l.newStride * l.bytesPerPixel * y0
  src := (l.stride * y + l.config.mCrop.left) * l.bytesPerPixel
  len := l.config.mCrop.getWidth * l.bytesPerPixel

def rowInts (l : CopyLoops) (y y0 : ℤ) : List ℤ :=
  [l.newStride * l.bytesPerPixel, l.newStride * l.bytesPerPixel * y0, l.stride * y,
    l.stride * y + l.config.mCrop.left, (l.stride * y + l.config.mCrop.left) * l.bytesPerPixel,
    l.config.mCrop.getWidth * l.bytesPerPixel]

def pixelCopy (l : CopyLoops) (y y0 x x0 : ℤ) : Memcpy where
  dst := (l.newStride * y0 + x0) * l.bytesPerPixel
  src := (l.stride * y + l.config.mCrop.left + x) * l.bytesPerPixel
  len := l.bytesPerPixel

def pixelInts (l : CopyLoops) (y y0 x x0 : ℤ) : List ℤ :=
  [l.newStride * y0, l.newStride * y0 + x0, (l.newStride * y0 + x0) * l.bytesPerPixel, l.stride * y,
    l.stride * y + l.config.mCrop.left, l.stride * y + l.config.mCrop.left + x,
    (l.stride * y + l.config.mCrop.left + x) * l.bytesPerPixel]

/-- The two loops, as the copies they make. -/
def copies (l : CopyLoops) : Option (List Memcpy) :=
  forLoop l.config.mCrop.top l.config.mCrop.bottom l.config.mDownSampleY fun y y0 =>
    if l.config.mDownSampleX = 1 then if AllInt (l.rowInts y y0) then some [l.rowCopy y y0] else none
    else
      forLoop l.config.mCrop.left l.config.mCrop.right l.config.mDownSampleX fun x x0 =>
        if AllInt (l.pixelInts y y0 x x0) then some [l.pixelCopy y y0 x x0] else none

def rows (l : CopyLoops) : ℕ := rounds l.config.mCrop.top l.config.mCrop.bottom l.config.mDownSampleY

def columns (l : CopyLoops) : ℕ := rounds l.config.mCrop.left l.config.mCrop.right l.config.mDownSampleX

def y (l : CopyLoops) (i : ℕ) : ℤ := l.config.mCrop.top + i * l.config.mDownSampleY

def x (l : CopyLoops) (j : ℕ) : ℤ := l.config.mCrop.left + j * l.config.mDownSampleX

/-- Nothing that is computed for a row overflows, in particular the counter of the loop over its pixels. -/
def RowFits (l : CopyLoops) (y y0 : ℤ) : Prop :=
  if l.config.mDownSampleX = 1 then AllInt (l.rowInts y y0)
  else ∀ j < l.columns, AllInt (l.pixelInts y y0 (l.x j) j)
    ∧ InInt (l.config.mCrop.left + (j + 1) * l.config.mDownSampleX)

instance (l : CopyLoops) (y y0 : ℤ) : Decidable (l.RowFits y y0) :=
  inferInstanceAs (Decidable (if l.config.mDownSampleX = 1 then AllInt (l.rowInts y y0)
    else ∀ j < l.columns, AllInt (l.pixelInts y y0 (l.x j) j)
      ∧ InInt (l.config.mCrop.left + (j + 1) * l.config.mDownSampleX)))

/-- No `int` of the two loops overflows. -/
def NoOverflow (l : CopyLoops) : Prop :=
  ∀ i < l.rows, l.RowFits (l.y i) i ∧ InInt (l.config.mCrop.top + (i + 1) * l.config.mDownSampleY)

instance (l : CopyLoops) : Decidable l.NoOverflow := inferInstanceAs (Decidable (∀ i < l.rows, _))

def rowCopies (l : CopyLoops) (y y0 : ℤ) : List Memcpy :=
  if l.config.mDownSampleX = 1 then [l.rowCopy y y0]
  else (List.range l.columns).flatMap fun j : ℕ => [l.pixelCopy y y0 (l.x j) j]

/-- **Which copies the loops make.** -/
lemma copies_eq_some_iff {l : CopyLoops} (hX : 0 < l.config.mDownSampleX) (hY : 0 < l.config.mDownSampleY)
    {out : List Memcpy} :
    l.copies = some out
      ↔ l.NoOverflow ∧ out = (List.range l.rows).flatMap fun i : ℕ => l.rowCopies (l.y i) i := by
  refine forLoop_eq_some_iff l.RowFits l.rowCopies hY fun {y y0 out} => ?_
  unfold RowFits rowCopies
  by_cases hone : l.config.mDownSampleX = 1
  · by_cases hfits : AllInt (l.rowInts y y0)
    · simp [hone, hfits, eq_comm]
    · simp [hone, hfits]
  · simp only [hone, if_false]
    refine forLoop_eq_some_iff (fun x x0 => AllInt (l.pixelInts y y0 x x0)) (fun x x0 => [l.pixelCopy y y0 x x0]) hX
      fun {x x0 out} => ?_
    by_cases hfits : AllInt (l.pixelInts y y0 x x0)
    · simp [hfits, eq_comm]
    · simp [hfits]

end CopyLoops

/-! ## The function -/

/-- What happens to the destination: a buffer could not be locked and nothing is copied, an `int` overflows or the
copy goes to `NULL`, or these copies are made into this buffer. -/
inductive CopyOutcome where
  | notLocked
  | undefined
  | copied (dst : DestBuffer) (copies : List Memcpy)

section

variable (src : SourceBuffer) (dst : DestBuffer) (alloc : Allocator)

/-- The destination that is used for a copy of everything. -/
def wholeTarget (config : DownSampleConfig) : DestBuffer :=
  if config.mCrop.getWidth ≠ dst.width ∨ config.mCrop.getHeight ≠ dst.height ∨ src.format ≠ dst.format then
    alloc.make src.width src.height src.format
  else dst

/-- The destination that is used otherwise. -/
def target (config : DownSampleConfig) : DestBuffer :=
  if newWidth config ≠ dst.width ∨ newHeight config ≠ dst.height ∨ src.format ≠ dst.format then
    alloc.make (newWidth config) (newHeight config) src.format
  else dst

def loops (config : DownSampleConfig) : CopyLoops where
  config := config
  stride := src.mStride
  newStride := (target src dst alloc config).mStride
  bytesPerPixel := bytesPerPixel src.mFormat

/-- `downSampleCopy`, given whether the buffers can be locked.  The result of the second lock is only looked at if
the copy is effective.  `stride * vstride` is an `int`, the product with `bits` is not. -/
def downSampleCopy (config : DownSampleConfig) (srcLock dstLock : Bool) : DownSampleConfig × CopyOutcome :=
  let newConfig := adjust config src
  if srcLock = false then (newConfig, .notLocked)
  else if Effective src newConfig then
    if dstLock = false then (newConfig, .notLocked)
    else
      match (loops src dst alloc newConfig).copies with
      | some copies => (newConfig, .copied (target src dst alloc newConfig) copies)
      | none => (newConfig, .undefined)
  else if dstLock = true ∧ InInt (src.mStride * src.mVStride) then
    let bytes := src.mStride * src.mVStride * getBitsPerPixel src.mFormat % 4294967296 / 8
    (newConfig, .copied (wholeTarget src dst alloc newConfig) [⟨0, 0, bytes⟩])
  else (newConfig, .undefined)

end

/-- After the copies, pixel `(x0, y0)` of the destination is the pixel of the source it should be, and only the
pixels of the source have been read. -/
structure Sampled (src : SourceBuffer) (config : DownSampleConfig) (dst : DestBuffer) (copies : List Memcpy)
    (content before : ℤ → UInt8) : Prop where
  pixels : ∀ x0 y0 b : ℤ, 0 ≤ x0 → x0 < newWidth config → 0 ≤ y0 → y0 < newHeight config →
    0 ≤ b → b < bytesPerPixel src.mFormat →
    copyAll content before copies ((dst.mStride * y0 + x0) * bytesPerPixel src.mFormat + b)
      = content ((src.mStride * (config.mCrop.top + y0 * config.mDownSampleY)
          + (config.mCrop.left + x0 * config.mDownSampleX)) * bytesPerPixel src.mFormat + b)
  inside : ∀ c ∈ copies, 0 ≤ c.src ∧ c.src + c.len ≤ src.mStride * src.mVStride * bytesPerPixel src.mFormat

/-! ## Where the pixels come from -/

namespace CopyLoops

structure Sound (l : CopyLoops) (vstride : ℤ) : Prop where
  left_nonneg : 0 ≤ l.config.mCrop.left
  left_lt : l.config.mCrop.left < l.config.mCrop.right
  right_le : l.config.mCrop.right ≤ l.stride
  top_nonneg : 0 ≤ l.config.mCrop.top
  top_lt : l.config.mCrop.top < l.config.mCrop.bottom
  bottom_le : l.config.mCrop.bottom ≤ vstride
  stepX_pos : 0 < l.config.mDownSampleX
  stepY_pos : 0 < l.config.mDownSampleY
  pixel_pos : 0 < l.bytesPerPixel
  columns_le : (l.columns : ℤ) ≤ l.newStride

def allCopies (l : CopyLoops) : List Memcpy := (List.range l.rows).flatMap fun i : ℕ => l.rowCopies (l.y i) i

/-- The place in the source that byte `b` of pixel `(j, i)` is copied from. -/
def origin (l : CopyLoops) (i j : ℕ) (b : ℤ) : ℤ :=
  if l.config.mDownSampleX = 1 then (l.stride * l.y i + l.x j) * l.bytesPerPixel + b
  else (l.stride * l.y i + l.config.mCrop.left + l.x j) * l.bytesPerPixel + b

variable {l : CopyLoops} {vstride : ℤ} {c : Memcpy}

lemma mem_allCopies_row (hone : l.config.mDownSampleX = 1) :
    c ∈ l.allCopies ↔ ∃ i < l.rows, c = l.rowCopy (l.y i) i := by
  simp [allCopies, rowCopies, hone]

lemma mem_allCopies_pixel (hone : l.config.mDownSampleX ≠ 1) :
    c ∈ l.allCopies ↔ ∃ i < l.rows, ∃ j < l.columns, c = l.pixelCopy (l.y i) i (l.x j) j := by
  simp [allCopies, rowCopies, hone]

lemma Sound.y_range (h : l.Sound vstride) {i : ℕ} (hi : i < l.rows) : 0 ≤ l.y i ∧ l.y i < vstride := by
  have hlt : l.y i < l.config.mCrop.bottom := (lt_rounds_iff h.stepY_pos).mp hi
  have hnonneg : 0 ≤ (i : ℤ) * l.config.mDownSampleY :=
    Int.mul_nonneg (Int.natCast_nonneg i) (Int.le_of_lt h.stepY_pos)
  have htop := h.top_nonneg
  have hbottom := h.bottom_le
  unfold y at *
  omega

lemma Sound.x_range (h : l.Sound vstride) {j : ℕ} (hj : j < l.columns) : 0 ≤ l.x j ∧ l.x j < l.stride := by
  have hlt : l.x j < l.config.mCrop.right := (lt_rounds_iff h.stepX_pos).mp hj
  have hnonneg : 0 ≤ (j : ℤ) * l.config.mDownSampleX :=
    Int.mul_nonneg (Int.natCast_nonneg j) (Int.le_of_lt h.stepX_pos)
  have hleft := h.left_nonneg
  have hright := h.right_le
  unfold x at *
  omega

lemma Sound.columns_eq (h : l.Sound vstride) (hone : l.config.mDownSampleX = 1) :
    (l.columns : ℤ) = l.config.mCrop.getWidth := by
  have hlt := h.left_lt
  unfold columns rounds Rect.getWidth
  rw [hone, Int.ediv_one]
  omega

lemma pixels_inside {stride y a n bpp : ℤ} (hy : 0 ≤ y) (hy' : y < vstride) (ha : 0 ≤ a) (hn : 0 ≤ n)
    (han : a + n ≤ stride) (hbpp : 0 < bpp) :
    0 ≤ (stride * y + a) * bpp ∧ (stride * y + a) * bpp + n * bpp ≤ stride * vstride * bpp := by
  have hrow : 0 ≤ stride * y := Int.mul_nonneg (by omega) hy
  have hrows : stride * (y + 1) ≤ stride * vstride := Int.mul_le_mul_of_nonneg_left (by omega) (by omega)
  refine ⟨Int.mul_nonneg (by omega) (Int.le_of_lt hbpp), ?_⟩
  rw [← Int.add_mul]
  refine Int.mul_le_mul_of_nonneg_right ?_ (Int.le_of_lt hbpp)
  rw [Int.mul_add] at hrows
  omega

lemma place_in_row {newStride bpp x0 b : ℤ} (hx : 0 ≤ x0) (hx' : x0 < newStride) (hb : 0 ≤ b) (hb' : b < bpp) :
    0 ≤ x0 * bpp + b ∧ x0 * bpp + b < newStride * bpp := by
  have hle : (x0 + 1) * bpp ≤ newStride * bpp := Int.mul_le_mul_of_nonneg_right (by omega) (by omega)
  have hnonneg : 0 ≤ x0 * bpp := Int.mul_nonneg hx (by omega)
  rw [Int.add_mul] at hle
  omega

section Place

variable {i j i0 j0 : ℕ} {b : ℤ}

lemma Sound.rowCopy_covers_iff (h : l.Sound vstride) (hone : l.config.mDownSampleX = 1) (hj0 : j0 < l.columns)
    (hb : 0 ≤ b) (hb' : b < l.bytesPerPixel) :
    (l.rowCopy (l.y i) i).Covers ((l.newStride * i0 + j0) * l.bytesPerPixel + b) ↔ i = i0 := by
  have hwidth := h.columns_eq hone
  have hcolumns := h.columns_le
  have hj0' : (0 : ℤ) ≤ j0 := Int.natCast_nonneg j0
  obtain ⟨hlo, hhi⟩ := place_in_row hj0' (by omega : (j0 : ℤ) < l.newStride) hb hb'
  obtain ⟨-, hhi'⟩ := place_in_row hj0' (by omega : (j0 : ℤ) < l.columns) hb hb'
  have hplace : (l.newStride * i0 + j0) * l.bytesPerPixel + b
      = i0 * (l.newStride * l.bytesPerPixel) + (j0 * l.bytesPerPixel + b) := by ring
  have hstart : (l.rowCopy (l.y i) i).dst = i * (l.newStride * l.bytesPerPixel) := Int.mul_comm _ _
  have hlen : (l.rowCopy (l.y i) i).len = l.columns * l.bytesPerPixel := by rw [hwidth]; rfl
  have hle : (l.columns : ℤ) * l.bytesPerPixel ≤ l.newStride * l.bytesPerPixel :=
    Int.mul_le_mul_of_nonneg_right hcolumns (by omega)
  unfold Memcpy.Covers
  rw [hplace, hstart, hlen]
  constructor
  · rintro ⟨hfrom, hto⟩
    have hrow : (i : ℤ) = i0 := block_unique hlo hhi hfrom (by omega)
    omega
  · rintro rfl
    omega

lemma Sound.pixelCopy_covers_iff (h : l.Sound vstride) (hj : j < l.columns) (hj0 : j0 < l.columns)
    (hb : 0 ≤ b) (hb' : b < l.bytesPerPixel) :
    (l.pixelCopy (l.y i) i (l.x j) j).Covers ((l.newStride * i0 + j0) * l.bytesPerPixel + b)
      ↔ i = i0 ∧ j = j0 := by
  have hcolumns := h.columns_le
  constructor
  · rintro ⟨hfrom, hto⟩
    have hpixel : l.newStride * i + j = l.newStride * i0 + j0 := block_unique hb hb' hfrom hto
    have hrow : (i : ℤ) = i0 := by
      refine block_unique (m := l.newStride) (b := j0) (by omega) (by omega) ?_ ?_
      · rw [Int.mul_comm _ l.newStride, Int.mul_comm _ l.newStride]
        omega
      · rw [Int.mul_comm _ l.newStride, Int.mul_comm _ l.newStride]
        omega
    rw [hrow] at hpixel
    omega
  · rintro ⟨rfl, rfl⟩
    exact ⟨by simp only [pixelCopy]; omega, by simp only [pixelCopy]; omega⟩

/-- **What the copies leave in the destination.** -/
lemma Sound.copyAll_place (h : l.Sound vstride) (hi0 : i0 < l.rows) (hj0 : j0 < l.columns) (hb : 0 ≤ b)
    (hb' : b < l.bytesPerPixel) (content before : ℤ → UInt8) :
    copyAll content before l.allCopies ((l.newStride * i0 + j0) * l.bytesPerPixel + b)
      = content (l.origin i0 j0 b) := by
  by_cases hone : l.config.mDownSampleX = 1
  · refine copyAll_eq ⟨_, (mem_allCopies_row hone).mpr ⟨i0, hi0, rfl⟩,
      (h.rowCopy_covers_iff hone hj0 hb hb').mpr rfl⟩ fun c hc hcovers => ?_
    obtain ⟨i, -, rfl⟩ := (mem_allCopies_row hone).mp hc
    obtain rfl := (h.rowCopy_covers_iff hone hj0 hb hb').mp hcovers
    refine congrArg content ?_
    simp only [Memcpy.origin, rowCopy, origin, hone, if_true, x]
    ring
  · refine copyAll_eq ⟨_, (mem_allCopies_pixel hone).mpr ⟨i0, hi0, j0, hj0, rfl⟩,
      (h.pixelCopy_covers_iff hj0 hj0 hb hb').mpr ⟨rfl, rfl⟩⟩ fun c hc hcovers => ?_
    obtain ⟨i, -, j, hj, rfl⟩ := (mem_allCopies_pixel hone).mp hc
    obtain ⟨rfl, rfl⟩ := (h.pixelCopy_covers_iff hj hj0 hb hb').mp hcovers
    refine congrArg content ?_
    simp only [Memcpy.origin, pixelCopy, origin, hone, if_false]
    ring

end Place

lemma Sound.inside (h : l.Sound vstride) (hgood : l.config.mDownSampleX = 1 ∨ l.config.mCrop.left = 0)
    (hc : c ∈ l.allCopies) : 0 ≤ c.src ∧ c.src + c.len ≤ l.stride * vstride * l.bytesPerPixel := by
  by_cases hone : l.config.mDownSampleX = 1
  · obtain ⟨i, hi, rfl⟩ := (mem_allCopies_row hone).mp hc
    obtain ⟨hy, hy'⟩ := h.y_range hi
    have hlt := h.left_lt
    have hright := h.right_le
    exact pixels_inside hy hy' h.left_nonneg (by unfold Rect.getWidth; omega) (by unfold Rect.getWidth; omega)
      h.pixel_pos
  · obtain ⟨i, hi, j, hj, rfl⟩ := (mem_allCopies_pixel hone).mp hc
    obtain ⟨hy, hy'⟩ := h.y_range hi
    obtain ⟨hx, hx'⟩ := h.x_range hj
    have hin := pixels_inside hy hy' hx (by omega) (by omega : l.x j + 1 ≤ l.stride) h.pixel_pos
    simpa [pixelCopy, hgood.resolve_left hone] using hin

end CopyLoops

/-! ## The copy as a whole -/

section

variable {src : SourceBuffer} (dst : DestBuffer) (alloc : Allocator) {config : DownSampleConfig}

lemma target_width : (target src dst alloc config).width = newWidth config := by
  unfold target
  split_ifs with hchanged
  · exact alloc.width_eq _ _ _
  · simp only [not_or, not_not] at hchanged
    exact hchanged.1.symm

/-- A format for which there is something to crop or to leave out has pixels of whole bytes. -/
lemma bytesPerPixel_pos {format : PixelFormat} (h : isSupportedFormat format = true) : 0 < bytesPerPixel format := by
  cases format <;> first | decide | exact absurd h Bool.false_ne_true

lemma supported_of_effective (h : Effective src (adjust config src)) : isSupportedFormat src.mFormat = true := by
  by_contra hnot
  exact h (by simp [adjust, hnot, Rect.getWidth, Rect.getHeight])

lemma adjust_stepX_pos : 0 < (adjust config src).mDownSampleX := by
  simp only [adjust]
  split_ifs <;> omega

lemma adjust_stepY_pos : 0 < (adjust config src).mDownSampleY := by
  simp only [adjust]
  split_ifs <;> omega

lemma downSampleCopy_effective (heff : Effective src (adjust config src)) {dst' : DestBuffer} {copies : List Memcpy} :
    (downSampleCopy src dst alloc config true true).2 = .copied dst' copies
      ↔ dst' = target src dst alloc (adjust config src)
        ∧ (loops src dst alloc (adjust config src)).copies = some copies := by
  cases hcopies : (loops src dst alloc (adjust config src)).copies with
  | none => simp [downSampleCopy, heff, hcopies]
  | some out => simp [downSampleCopy, heff, hcopies, eq_comm]

lemma downSampleCopy_config (srcLock dstLock : Bool) :
    (downSampleCopy src dst alloc config srcLock dstLock).1 = adjust config src := by
  unfold downSampleCopy
  cases srcLock with
  | false => rfl
  | true =>
    by_cases heff : Effective src (adjust config src)
    · cases dstLock with
      | false => simp [heff]
      | true => cases hcopies : (loops src dst alloc (adjust config src)).copies <;> simp [heff, hcopies]
    · cases dstLock with
      | false => simp [heff]
      | true => by_cases hint : InInt (src.mStride * src.mVStride) <;> simp [heff, hint]

lemma columns_loops : ((loops src dst alloc config).columns : ℤ) = max (newWidth config) 0 :=
  Int.toNat_eq_max _

lemma rows_loops : ((loops src dst alloc config).rows : ℤ) = max (newHeight config) 0 :=
  Int.toNat_eq_max _

lemma sampledSize_pos {size step : ℤ} (hsize : 0 < size) (hstep : 0 < step) : 0 < (size - 1) / step + 1 := by
  have hnonneg : 0 ≤ (size - 1) / step := Int.ediv_nonneg (by omega) (Int.le_of_lt hstep)
  omega

/-- A configuration as `adjust` leaves it, of a source with pixels to leave out. -/
structure Usable (src : SourceBuffer) (config : DownSampleConfig) : Prop where
  crop : CropOk src config.mCrop
  stepX_pos : 0 < config.mDownSampleX
  stepY_pos : 0 < config.mDownSampleY
  pixel_pos : 0 < bytesPerPixel src.mFormat

variable (h : Usable src config)

include h

lemma Usable.newWidth_pos : 0 < newWidth config :=
  sampledSize_pos (Int.sub_pos.mpr h.crop.left_lt) h.stepX_pos

lemma Usable.newHeight_pos : 0 < newHeight config :=
  sampledSize_pos (Int.sub_pos.mpr h.crop.top_lt) h.stepY_pos

lemma Usable.loops_sound : (loops src dst alloc config).Sound src.mVStride where
  left_nonneg := h.crop.left_nonneg
  left_lt := h.crop.left_lt
  right_le := h.crop.right_le
  top_nonneg := h.crop.top_nonneg
  top_lt := h.crop.top_lt
  bottom_le := h.crop.bottom_le
  stepX_pos := h.stepX_pos
  stepY_pos := h.stepY_pos
  pixel_pos := h.pixel_pos
  columns_le := by
    have hwidth := (target src dst alloc config).width_le
    have hpos := h.newWidth_pos
    rw [target_width] at hwidth
    rw [columns_loops dst alloc]
    show max _ _ ≤ (target src dst alloc config).mStride
    omega

lemma Usable.sampled_of_good (hgood : config.mDownSampleX = 1 ∨ config.mCrop.left = 0) (content before : ℤ → UInt8) :
    Sampled src config (target src dst alloc config)
      (loops src dst alloc config).allCopies content before where
  pixels x0 y0 b hx hx' hy hy' hb hb' := by
    have hcolumns : ((loops src dst alloc config).columns : ℤ) = _ := columns_loops dst alloc
    have hrows : ((loops src dst alloc config).rows : ℤ) = _ := rows_loops dst alloc
    obtain ⟨j, rfl⟩ := Int.eq_ofNat_of_zero_le hx
    obtain ⟨i, rfl⟩ := Int.eq_ofNat_of_zero_le hy
    refine ((h.loops_sound dst alloc).copyAll_place (by omega) (by omega) hb hb' content before).trans
      (congrArg content ?_)
    unfold CopyLoops.origin
    split_ifs with hone
    · rfl
    · have hleft : (loops src dst alloc config).config.mCrop.left = 0 := hgood.resolve_left hone
      rw [hleft, Int.add_zero]
      rfl
  inside c hc := (h.loops_sound dst alloc).inside hgood hc

/-- The first pixel comes from the right place only if the left edge is not added twice. -/
lemma Usable.good_of_sampled (hsampled : ∀ content before, Sampled src config (target src dst alloc config)
      (loops src dst alloc config).allCopies content before) :
    config.mDownSampleX = 1 ∨ config.mCrop.left = 0 := by
  have hcolumns : ((loops src dst alloc config).columns : ℤ) = _ := columns_loops dst alloc
  have hrows : ((loops src dst alloc config).rows : ℤ) = _ := rows_loops dst alloc
  have hwidth := h.newWidth_pos
  have hheight := h.newHeight_pos
  have hpixel := h.pixel_pos
  by_cases hone : config.mDownSampleX = 1
  · exact .inl hone
  · -- contents that mark the place the first byte is copied from
    let place := (loops src dst alloc config).origin 0 0 0
    let content : ℤ → UInt8 := fun a => if a = place then 1 else 0
    have hcopied : copyAll content content (loops src dst alloc config).allCopies _ = content place :=
      (h.loops_sound dst alloc).copyAll_place (by omega) (by omega) (Int.le_refl 0) hpixel content content
    have hshould := (hsampled content content).pixels 0 0 0 (Int.le_refl 0) hwidth (Int.le_refl 0) hheight
      (Int.le_refl 0) hpixel
    have hplace : (src.mStride * (config.mCrop.top + 0 * config.mDownSampleY)
        + (config.mCrop.left + 0 * config.mDownSampleX)) * bytesPerPixel src.mFormat + 0
        = place := by
      by_contra hne
      have hmark := hshould.symm.trans hcopied
      simp only [content, hne, if_false, if_true] at hmark
      exact absurd hmark (by decide)
    have htwice : place = (src.mStride * (config.mCrop.top + 0 * config.mDownSampleY)
        + config.mCrop.left + (config.mCrop.left + 0 * config.mDownSampleX))
        * bytesPerPixel src.mFormat + 0 := if_neg hone
    rw [htwice, Int.add_zero, Int.add_zero] at hplace
    have hpixels := Int.eq_of_mul_eq_mul_right (Int.ne_of_gt hpixel) hplace
    omega

omit h

/-- **The copy that `downSampleCopy` makes.**  The rectangle it uses is in range.  A copy that leaves something out
is right, for any contents of the source, iff no `int` overflows and no pixel is left out of a row or the rectangle
starts at the left edge. -/
theorem downSampleCopy_sampled_iff (src : SourceBuffer) (dst : DestBuffer) (alloc : Allocator)
    (config : DownSampleConfig) (hstride : 1 ≤ src.mStride) (hvstride : 1 ≤ src.mVStride) :
    (∀ srcLock dstLock, CropOk src (downSampleCopy src dst alloc config srcLock dstLock).1.mCrop)
      ∧ (Effective src (adjust config src) →
        ((∀ content before, ∃ dst' copies,
            (downSampleCopy src dst alloc config true true).2 = .copied dst' copies
              ∧ Sampled src (adjust config src) dst' copies content before)
          ↔ (loops src dst alloc (adjust config src)).NoOverflow
            ∧ ((adjust config src).mDownSampleX = 1 ∨ (adjust config src).mCrop.left = 0))) := by
  have hcrop := adjust_cropOk config src hstride hvstride
  refine ⟨fun srcLock dstLock => by rw [downSampleCopy_config]; exact hcrop, fun heff => ?_⟩
  have husable : Usable src (adjust config src) :=
    ⟨hcrop, adjust_stepX_pos, adjust_stepY_pos, bytesPerPixel_pos (supported_of_effective heff)⟩
  have hiff : ∀ {copies}, (loops src dst alloc (adjust config src)).copies = some copies
      ↔ (loops src dst alloc (adjust config src)).NoOverflow
        ∧ copies = (loops src dst alloc (adjust config src)).allCopies :=
    CopyLoops.copies_eq_some_iff adjust_stepX_pos adjust_stepY_pos
  constructor
  · intro hall
    obtain ⟨dst', copies, houtcome, -⟩ := hall (fun _ => 0) (fun _ => 0)
    obtain ⟨hno, -⟩ := hiff.mp ((downSampleCopy_effective dst alloc heff).mp houtcome).2
    refine ⟨hno, husable.good_of_sampled dst alloc fun content before => ?_⟩
    obtain ⟨dst', copies, houtcome, hsampled⟩ := hall content before
    obtain ⟨rfl, hcopies⟩ := (downSampleCopy_effective dst alloc heff).mp houtcome
    rw [(hiff.mp hcopies).2] at hsampled
    exact hsampled
  · rintro ⟨hno, hgood⟩ content before
    exact ⟨_, _, (downSampleCopy_effective dst alloc heff).mpr ⟨rfl, hiff.mpr ⟨hno, rfl⟩⟩,
      husable.sampled_of_good dst alloc hgood content before⟩

/-- A buffer of 8 by 8 pixels of one byte, with the planes of the colours behind it. -/
def eightByEight : SourceBuffer := ⟨8, 8, .i420, .i420, 8, 8⟩

def exactAllocator : Allocator := ⟨fun w h format => ⟨w, h, format, w, Int.le_refl w⟩, fun _ _ _ => rfl, fun _ _ _ => rfl⟩

def oldBackup : DestBuffer := ⟨8, 8, .i420, 8, by decide⟩

/-- Every other pixel of every third row, from the left edge. -/
theorem downSampleCopy_sampled_leftEdge :
    Effective eightByEight (adjust ⟨2, 3, ⟨0, 1, 7, 8⟩⟩ eightByEight)
      ∧ ∀ content before, ∃ dst' copies,
        (downSampleCopy eightByEight oldBackup exactAllocator ⟨2, 3, ⟨0, 1, 7, 8⟩⟩ true true).2 = .copied dst' copies
          ∧ Sampled eightByEight (adjust ⟨2, 3, ⟨0, 1, 7, 8⟩⟩ eightByEight) dst' copies content before := by
  have heff : Effective eightByEight (adjust ⟨2, 3, ⟨0, 1, 7, 8⟩⟩ eightByEight) := by decide
  exact ⟨heff, ((downSampleCopy_sampled_iff eightByEight oldBackup exactAllocator ⟨2, 3, ⟨0, 1, 7, 8⟩⟩ (by decide)
    (by decide)).2 heff).mpr (by decide)⟩

/-- **The defect**: with the rectangle two pixels from the left edge the first pixel is that at column 4, and in the
last row the pixels behind the last one are read. -/
theorem left_edge_added_twice :
    ∃ dst' copies,
      (downSampleCopy eightByEight oldBackup exactAllocator ⟨2, 1, ⟨2, 0, 8, 8⟩⟩ true true).2 = .copied dst' copies
        ∧ copyAll (fun a => UInt8.ofNat a.toNat) (fun _ => 0) copies 0 = 4
        ∧ ¬ Sampled eightByEight (adjust ⟨2, 1, ⟨2, 0, 8, 8⟩⟩ eightByEight) dst' copies
            (fun a => UInt8.ofNat a.toNat) (fun _ => 0) := by
  refine ⟨_, _, rfl, by decide, fun h => ?_⟩
  exact absurd (h.pixels 0 0 0 (by decide) (by decide) (by decide) (by decide) (by decide) (by decide)) (by decide)

end

end Hal
