import DeviceHal.Core.Bytes

/-!
# Reading the fields of a record

A record in C is read field by field, each at its offset from where the record begins.  What a computation of such reads
comes to is said in one go: under which condition every read stays inside the object, and what the result then is.

* `loadNat`, `loadInt`, `loadByte`, `loadCString` — an unsigned number, a signed one, a byte, and a string up to its
  NUL.
* **`Reads`** — the computation stays inside its object iff the condition holds, and then has this result.
  `Reads.bind`, `Reads.bind_ok` and `Reads.map` put computations together, `Reads.congr` restates the condition.
-/

namespace Hal

variable {α β : Type}

/-! ## Fields -/

/-- The number in the `k` bytes at an offset. -/
def natAt (bs : List UInt8) (offset k : ℕ) : ℕ := ofLeBytes (slice bs offset k)

def intAt (bs : List UInt8) (offset k : ℕ) : ℤ := Int.bmod (natAt bs offset k) (256 ^ k)

def loadNat (bs : List UInt8) (offset k : ℕ) : Except Fault ℕ :=
  load bs offset k >>= fun field => .ok (ofLeBytes field)

def loadInt (bs : List UInt8) (offset k : ℕ) : Except Fault ℤ :=
  load bs offset k >>= fun field => .ok (Int.bmod (ofLeBytes field) (256 ^ k))

def loadByte (bs : List UInt8) (offset : ℕ) : Except Fault UInt8 :=
  match bs[offset]? with
  | some b => .ok b
  | none => .error (.load offset 1 bs.length)

/-- A string is read byte by byte, up to its NUL. -/
def cstring : List UInt8 → Option (List UInt8)
  | [] => none
  | b :: bs => if b = 0 then some [] else (cstring bs).map (b :: ·)

def loadCString (bs : List UInt8) (offset : ℕ) : Except Fault (List UInt8) :=
  match cstring (bs.drop offset) with
  | some s => .ok s
  | none => .error (.load bs.length 1 bs.length)

lemma cstring_of_mem {bs : List UInt8} (h : 0 ∈ bs) : cstring bs = some (bs.takeWhile (· ≠ 0)) := by
  induction bs with
  | nil => exact absurd h List.not_mem_nil
  | cons b bs ih =>
    by_cases hb : b = 0
    · simp [cstring, hb]
    · have hmem : 0 ∈ bs := (List.mem_cons.mp h).resolve_left fun heq => hb heq.symm
      simp [cstring, hb, ih hmem]

lemma cstring_eq_none {bs : List UInt8} (h : 0 ∉ bs) : cstring bs = none := by
  induction bs with
  | nil => rfl
  | cons b bs ih =>
    rw [List.mem_cons, not_or] at h
    simp [cstring, Ne.symm h.1, ih h.2]

/-! ## What a computation of reads comes to -/

/-- The computation stays inside its object iff the condition holds, and then has this result. -/
structure Reads (x : Except Fault α) (fits : Prop) (a : α) : Prop where
  eq_ok : fits → x = .ok a
  fits_of : InBounds x → fits

namespace Reads

variable {x : Except Fault α} {f : α → Except Fault β} {fits fits' : Prop} {a : α} {b : β}

/-- **One after the other.** -/
lemma bind (h : Reads x fits a) (hf : Reads (f a) fits' b) : Reads (x >>= f) (fits ∧ fits') b where
  eq_ok hfits := by
    rw [h.eq_ok hfits.1]
    exact hf.eq_ok hfits.2
  fits_of hin := by
    obtain ⟨a', ha', hin'⟩ := inBounds_bind.mp hin
    have hfits := h.fits_of ⟨a', ha'⟩
    rw [h.eq_ok hfits] at ha'
    cases ha'
    exact ⟨hfits, hf.fits_of hin'⟩

lemma bind_ok (h : Reads x fits a) (hf : fits → f a = .ok b) : Reads (x >>= f) fits b where
  eq_ok hfits := by
    rw [h.eq_ok hfits]
    exact hf hfits
  fits_of hin := by
    obtain ⟨a', ha', -⟩ := inBounds_bind.mp hin
    exact h.fits_of ⟨a', ha'⟩

lemma map (h : Reads x fits a) (g : α → β) : Reads (x >>= fun a => .ok (g a)) fits (g a) := h.bind_ok fun _ => rfl

lemma congr (h : Reads x fits a) (hiff : fits ↔ fits') : Reads x fits' a :=
  ⟨fun hfits => h.eq_ok (hiff.mpr hfits), fun hin => hiff.mp (h.fits_of hin)⟩

lemma of_eq {a' : α} (h : Reads x fits a) (heq : fits → a = a') : Reads x fits a' :=
  ⟨fun hfits => heq hfits ▸ h.eq_ok hfits, h.fits_of⟩

end Reads

lemma reads_load (bs : List UInt8) (offset n : ℕ) :
    Reads (load bs offset n) (offset + n ≤ bs.length) (slice bs offset n) where
  eq_ok h := if_pos h
  fits_of h := by
    unfold load at h
    split_ifs at h with hle
    · exact hle
    · exact absurd h (not_inBounds_error _)

lemma reads_store (out : List UInt8) (offset : ℕ) (bs : List UInt8) :
    Reads (store out offset bs) (offset + bs.length ≤ out.length) (patch out offset bs) where
  eq_ok h := if_pos h
  fits_of h := by
    unfold store at h
    split_ifs at h with hle
    · exact hle
    · exact absurd h (not_inBounds_error _)

lemma reads_loadNat (bs : List UInt8) (offset k : ℕ) :
    Reads (loadNat bs offset k) (offset + k ≤ bs.length) (natAt bs offset k) :=
  (reads_load bs offset k).map ofLeBytes

lemma reads_loadInt (bs : List UInt8) (offset k : ℕ) :
    Reads (loadInt bs offset k) (offset + k ≤ bs.length) (intAt bs offset k) :=
  (reads_load bs offset k).map fun field => Int.bmod (ofLeBytes field) (256 ^ k)

lemma reads_loadByte (bs : List UInt8) (offset : ℕ) :
    Reads (loadByte bs offset) (offset < bs.length) (bs.getD offset 0) where
  eq_ok h := by rw [loadByte, List.getD_eq_getElem?_getD, List.getElem?_eq_getElem h, Option.getD_some]
  fits_of h := by
    by_contra hnot
    rw [loadByte, List.getElem?_eq_none (Nat.le_of_not_lt hnot)] at h
    exact not_inBounds_error _ h

lemma reads_loadCString (bs : List UInt8) (offset : ℕ) :
    Reads (loadCString bs offset) (0 ∈ bs.drop offset) ((bs.drop offset).takeWhile (· ≠ 0)) where
  eq_ok h := by rw [loadCString, cstring_of_mem h]
  fits_of h := by
    by_contra hnot
    rw [loadCString, cstring_eq_none hnot] at h
    exact not_inBounds_error _ h

end Hal
