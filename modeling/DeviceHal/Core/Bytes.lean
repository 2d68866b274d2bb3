import Mathlib.Data.Vector.Defs
import Mathlib.Data.List.Basic
import Mathlib.Data.Nat.ModEq
import Mathlib.Algebra.Order.Ring.Int
import Mathlib.Tactic.Ring

/-!
# Bytes, and accesses that stay inside their object

What a program in C does with a message: it loads bytes at an offset, stores bytes at an offset, and takes
four of them for an `int`.  An access that leaves its object is a `Fault`, and a computation is
`InBounds` if it meets none.

* `leBytes`, `ofLeBytes`, `intBytes`, `intOfBytes` — numbers as little-endian bytes, and back.
* `load`, `store` — the two accesses, each with the rule that says when the rest of a computation is
  reached: `inBounds_load_bind`, `inBounds_store_bind`.
* `Scan` — reading along an object, from one offset to the next; `LieAt.scan_bind` reads what lies there.
* `Writer`, `Puts` — filling a buffer from the front; `Puts.seq` puts operations together.  `overwrite` is the writer
  of a buffer that was not empty before.
-/

namespace Hal

open List

/-! ## Numbers -/

/-- The `k` low bytes of a number, the lowest first. -/
def leBytes : ℕ → ℕ → List UInt8
  | 0, _ => []
  | k + 1, n => UInt8.ofNat n :: leBytes k (n / 256)

/-- The number with the given bytes, the lowest first. -/
def ofLeBytes : List UInt8 → ℕ
  | [] => 0
  | b :: bs => b.toNat + 256 * ofLeBytes bs

lemma ofLeBytes_lt (bs : List UInt8) : ofLeBytes bs < 256 ^ bs.length := by
  induction bs with
  | nil => simp [ofLeBytes]
  | cons b bs ih =>
    have hb := b.toNat_lt
    rw [ofLeBytes, length_cons, pow_succ]
    omega

def intBytes (x : ℤ) : List UInt8 := leBytes 4 (x % 2 ^ 32).toNat

/-- What a 32-bit `int` holds of a number. -/
def wrapInt (x : ℤ) : ℤ := Int.bmod x (2 ^ 32)

lemma wrapInt_def (x : ℤ) :
    wrapInt x = if x % 4294967296 < 2147483648 then x % 4294967296 else x % 4294967296 - 4294967296 :=
  Int.bmod_def x (2 ^ 32)

lemma wrapInt_eq_self {x : ℤ} (hmin : -2147483648 ≤ x) (hmax : x < 2147483648) : wrapInt x = x := by
  rw [wrapInt_def]
  split_ifs <;> omega

def intOfBytes (bs : List UInt8) : ℤ := wrapInt (ofLeBytes bs)

lemma length_leBytes (k n : ℕ) : (leBytes k n).length = k := by
  induction k generalizing n with
  | zero => rfl
  | succ k ih => rw [leBytes, length_cons, ih]

@[simp] lemma length_intBytes (x : ℤ) : (intBytes x).length = 4 := length_leBytes 4 _

lemma ofLeBytes_leBytes (k n : ℕ) : ofLeBytes (leBytes k n) = n % 256 ^ k := by
  induction k generalizing n with
  | zero => rw [leBytes, ofLeBytes, pow_zero, Nat.mod_one]
  | succ k ih =>
    have hbyte : (UInt8.ofNat n).toNat = n % 256 := UInt8.toNat_ofNat'
    rw [leBytes, ofLeBytes, ih, hbyte, pow_succ' 256 k, Nat.mod_mul]

/-- **An `int` is its four bytes.** -/
lemma intOfBytes_intBytes {x : ℤ} (hmin : -2147483648 ≤ x) (hmax : x < 2147483648) : intOfBytes (intBytes x) = x := by
  have hbytes : ofLeBytes (intBytes x) = (x % 4294967296).toNat := by
    have hpow : (2 : ℤ) ^ 32 = 4294967296 := by norm_num
    have hmod : (x % 4294967296).toNat % 256 ^ 4 = (x % 4294967296).toNat := Nat.mod_eq_of_lt (by omega)
    rw [intBytes, hpow, ofLeBytes_leBytes, hmod]
  rw [intOfBytes, wrapInt_def, hbytes]
  split_ifs <;> omega

variable {n : ℕ}

lemma bmod_emod_natCast {m : ℕ} (h : n < m) : Int.bmod n m % m = n := by
  rw [Int.bmod_emod]
  exact Int.emod_eq_of_lt (Int.natCast_nonneg n) (Int.ofNat_lt.mpr h)

def intOfSize (n : ℕ) : ℤ := wrapInt n

lemma intOfSize_le (n : ℕ) : intOfSize n ≤ n := by
  rw [intOfSize, wrapInt_def]
  split_ifs <;> omega

lemma intOfSize_eq (h : n < 2147483648) : intOfSize n = n := wrapInt_eq_self (by omega) (by omega)

/-! ## Accesses -/

/-- An access of `len` bytes at `offset` that leaves its object of `size` bytes. -/
inductive Fault where
  | load (offset len size : ℕ)
  | store (offset len size : ℕ)
deriving DecidableEq

def slice (bs : List UInt8) (offset n : ℕ) : List UInt8 := (bs.drop offset).take n

variable {bs out : List UInt8} {offset : ℕ}

lemma length_slice (h : offset + n ≤ bs.length) : (slice bs offset n).length = n := by
  simp only [slice, length_take, length_drop]
  omega

def load (bs : List UInt8) (offset n : ℕ) : Except Fault (List UInt8) :=
  if offset + n ≤ bs.length then .ok (slice bs offset n) else .error (.load offset n bs.length)

/-- The object after `bs` was stored in it. -/
def patch (out : List UInt8) (offset : ℕ) (bs : List UInt8) : List UInt8 :=
  out.take offset ++ bs ++ out.drop (offset + bs.length)

lemma length_patch (h : offset + bs.length ≤ out.length) : (patch out offset bs).length = out.length := by
  simp only [patch, length_append, length_take, length_drop]
  omega

def store (out : List UInt8) (offset : ℕ) (bs : List UInt8) : Except Fault (List UInt8) :=
  if offset + bs.length ≤ out.length then .ok (patch out offset bs)
  else .error (.store offset bs.length out.length)

lemma length_of_store_eq_ok {out' : List UInt8} (h : store out offset bs = .ok out') : out'.length = out.length := by
  unfold store at h
  split_ifs at h with hle
  cases h
  exact length_patch hle

/-! ## Computations without a fault -/

variable {α β : Type} {f : List UInt8 → Except Fault β}

/-- Every access of the computation stays inside its object. -/
def InBounds (x : Except Fault α) : Prop := ∃ a, x = .ok a

@[simp] lemma inBounds_ok (a : α) : InBounds (.ok a : Except Fault α) := ⟨a, rfl⟩

@[simp] lemma inBounds_pure (a : α) : InBounds (pure a : Except Fault α) := ⟨a, rfl⟩

@[simp] lemma not_inBounds_error (e : Fault) : ¬ InBounds (.error e : Except Fault α) :=
  fun ⟨_, h⟩ => nomatch h

variable {x : Except Fault α}

lemma bind_eq_ok {f : α → Except Fault β} {b : β} : x >>= f = .ok b ↔ ∃ a, x = .ok a ∧ f a = .ok b := by
  cases x with
  | ok a =>
    constructor
    · exact fun h => ⟨a, rfl, h⟩
    · rintro ⟨a', ha', h⟩
      cases ha'
      exact h
  | error e =>
    constructor
    · exact fun h => nomatch h
    · rintro ⟨a, ha, -⟩
      cases ha

lemma inBounds_bind {f : α → Except Fault β} : InBounds (x >>= f) ↔ ∃ a, x = .ok a ∧ InBounds (f a) := by
  constructor
  · rintro ⟨b, hb⟩
    obtain ⟨a, ha, hf⟩ := bind_eq_ok.mp hb
    exact ⟨a, ha, b, hf⟩
  · rintro ⟨a, ha, b, hf⟩
    exact ⟨b, bind_eq_ok.mpr ⟨a, ha, hf⟩⟩

lemma inBounds_load_bind :
    InBounds (load bs offset n >>= f) ↔
      offset + n ≤ bs.length ∧ InBounds (f (slice bs offset n)) := by
  unfold load
  split_ifs with h
  · exact ⟨fun hf => ⟨h, hf⟩, fun hf => hf.2⟩
  · exact ⟨fun hf => absurd hf (not_inBounds_error _), fun hf => absurd hf.1 h⟩

lemma inBounds_store_bind :
    InBounds (store out offset bs >>= f) ↔
      offset + bs.length ≤ out.length ∧ InBounds (f (patch out offset bs)) := by
  unfold store
  split_ifs with h
  · exact ⟨fun hf => ⟨h, hf⟩, fun hf => hf.2⟩
  · exact ⟨fun hf => absurd hf (not_inBounds_error _), fun hf => absurd hf.1 h⟩

lemma length_patch_pair (h : offset + 2 ≤ out.length) (x y : UInt8) :
    (patch (patch out offset [x]) (offset + 1) [y]).length = out.length := by
  have hfirst : (patch out offset [x]).length = out.length := length_patch (by rw [length_singleton]; omega)
  rw [length_patch, hfirst]
  rw [hfirst, length_singleton]
  omega

lemma inBounds_store_pair_bind {x y : UInt8} :
    InBounds (store out offset [x] >>= fun out => store out (offset + 1) [y] >>= f) ↔
      offset + 2 ≤ out.length ∧ InBounds (f (patch (patch out offset [x]) (offset + 1) [y])) := by
  rw [inBounds_store_bind, inBounds_store_bind, ← and_assoc, length_singleton, length_singleton]
  refine and_congr_left fun _ => ?_
  constructor
  · rintro ⟨h0, h1⟩
    rw [length_patch (by rwa [length_singleton])] at h1
    exact h1
  · intro h
    have h0 : offset + 1 ≤ out.length := by omega
    refine ⟨h0, ?_⟩
    rw [length_patch (by rwa [length_singleton])]
    exact h

/-! ## Reading along an object -/

/-- A computation that carries the offset it has come to in the object it reads. -/
abbrev Scan (α : Type) : Type := StateT ℕ (Except Fault) α

def scan (bs : List UInt8) (n : ℕ) : Scan (List UInt8) := fun offset =>
  load bs offset n >>= fun next => .ok (next, offset + n)

lemma inBounds_scan_bind {f : List UInt8 → Scan β} :
    InBounds ((scan bs n >>= f) offset) ↔
      offset + n ≤ bs.length ∧ InBounds (f (slice bs offset n) (offset + n)) := by
  have hbind : (scan bs n >>= f) offset =
      load bs offset n >>= fun next => f next (offset + n) := by
    show ((load bs offset n >>= fun next => .ok (next, offset + n)) >>= fun p => f p.1 p.2) = _
    rw [bind_assoc]
    rfl
  rw [hbind, inBounds_load_bind]

lemma inBounds_lift_bind {f : α → Scan β} :
    InBounds (((x : Scan α) >>= f) offset) ↔ ∃ a, x = .ok a ∧ InBounds (f a offset) := by
  have hbind : ((x : Scan α) >>= f) offset = x >>= fun a => f a offset := by
    show ((x >>= fun a => .ok (a, offset)) >>= fun p => f p.1 p.2) = _
    rw [bind_assoc]
    rfl
  rw [hbind, inBounds_bind]

lemma inBounds_lift_load_bind {start : ℕ} {f : List UInt8 → Scan β} :
    InBounds (((load bs start n : Scan (List UInt8)) >>= f) offset) ↔
      start + n ≤ bs.length ∧ InBounds (f (slice bs start n) offset) := by
  rw [inBounds_lift_bind, ← inBounds_bind, inBounds_load_bind]

/-- The bytes lie at an offset of the object. -/
def LieAt (buff : List UInt8) (offset : ℕ) (bs : List UInt8) : Prop :=
  ∃ before after, buff = before ++ (bs ++ after) ∧ before.length = offset

variable {buff : List UInt8}

lemma LieAt.left {bs' : List UInt8} (h : LieAt buff offset (bs ++ bs')) : LieAt buff offset bs := by
  obtain ⟨before, after, rfl, hoffset⟩ := h
  exact ⟨before, bs' ++ after, by rw [append_assoc], hoffset⟩

lemma LieAt.right {bs' : List UInt8} (h : LieAt buff offset (bs ++ bs')) : LieAt buff (offset + bs.length) bs' := by
  obtain ⟨before, after, rfl, rfl⟩ := h
  exact ⟨before ++ bs, after, by simp only [append_assoc], length_append⟩

/-- **What lies ahead is read.** -/
lemma LieAt.scan_bind (h : LieAt buff offset bs) (hn : bs.length = n)
    (f : List UInt8 → Scan β) : (scan buff n >>= f) offset = f bs (offset + n) := by
  obtain ⟨before, after, rfl, rfl⟩ := h
  subst hn
  have hload : load (before ++ (bs ++ after)) before.length bs.length = .ok bs := by
    rw [load, if_pos (by simp), slice, drop_left, take_left]
  show ((load _ before.length bs.length >>= fun next => .ok (next, before.length + bs.length)) >>= _) = _
  rw [hload]
  rfl

@[simp] lemma inBounds_scan_pure (b : β) (offset : ℕ) : InBounds ((pure b : Scan β) offset) := ⟨_, rfl⟩

/-! ## Writing along an object -/

/-- A buffer of `size` bytes that starts with `bs` and is zero after it. -/
def padded (size : ℕ) (bs : List UInt8) : List UInt8 := bs ++ List.replicate (size - bs.length) 0

lemma length_padded {size : ℕ} (h : bs.length ≤ size) : (padded size bs).length = size := by
  simp only [padded, length_append, length_replicate]
  omega

lemma patch_padded {size : ℕ} {new : List UInt8} (h : bs.length + new.length ≤ size) :
    patch (padded size bs) bs.length new = padded size (bs ++ new) := by
  have hdrop : (padded size bs).drop (bs.length + new.length) =
      List.replicate (size - (bs ++ new).length) 0 := by
    rw [padded, drop_append, drop_replicate, drop_eq_nil_of_le (by omega), nil_append, length_append]
    congr 1
    omega
  rw [patch, hdrop, padded, padded, take_left]

/-- A buffer and the offset up to which it has been written. -/
structure Writer where
  buff : List UInt8
  offset : ℕ

namespace Writer

/-- The writer that has put `bs` into a buffer of `size` zeros. -/
def filled (size : ℕ) (bs : List UInt8) : Writer := ⟨padded size bs, bs.length⟩

def put (bs : List UInt8) (w : Writer) : Except Fault Writer :=
  store w.buff w.offset bs >>= fun buff => .ok ⟨buff, w.offset + bs.length⟩

/-- The operation appends `bytes` where they fit, and is a fault where they do not. -/
def Puts (size : ℕ) (op : Writer → Except Fault Writer) (bytes : List UInt8) : Prop :=
  ∀ bs, bs.length ≤ size →
    ((bs ++ bytes).length ≤ size → op (filled size bs) = .ok (filled size (bs ++ bytes)))
    ∧ (¬ (bs ++ bytes).length ≤ size → ¬ InBounds (op (filled size bs)))

variable {size : ℕ} {op op' : Writer → Except Fault Writer} {bytes bytes' : List UInt8}

lemma puts_put (new : List UInt8) : Puts size (put new) new := by
  intro bs hbs
  have hlen : (padded size bs).length = size := length_padded hbs
  refine ⟨fun hle => ?_, fun hle hput => ?_⟩
  · rw [length_append] at hle
    have hstore : store (padded size bs) bs.length new = .ok (padded size (bs ++ new)) := by
      rw [store, if_pos (by omega), patch_padded hle]
    rw [put, filled, hstore, filled, length_append]
    rfl
  · have hfit := (inBounds_store_bind.mp hput).1
    rw [length_append] at hle
    exact hle (hfit.trans hlen.le)

/-- **One after the other** appends the bytes of both. -/
lemma Puts.seq (h : Puts size op bytes) (h' : Puts size op' bytes') : Puts size (op >=> op') (bytes ++ bytes') := by
  intro bs hbs
  simp only [← append_assoc]
  refine ⟨fun hle => ?_, fun hle hop => ?_⟩
  · have hfirst : (bs ++ bytes).length ≤ size := (by simp : (bs ++ bytes).length ≤ _).trans hle
    show op (filled size bs) >>= op' = _
    rw [(h bs hbs).1 hfirst]
    exact (h' (bs ++ bytes) hfirst).1 hle
  · obtain ⟨w, hw, hop'⟩ := inBounds_bind.mp hop
    by_cases hfirst : (bs ++ bytes).length ≤ size
    · rw [(h bs hbs).1 hfirst] at hw
      cases hw
      exact (h' (bs ++ bytes) hfirst).2 hle hop'
    · exact (h bs hbs).2 hfirst ⟨w, hw⟩

/-- The writer that has put `bs` over the front of a buffer, whatever there was. -/
def overwrite (buff bs : List UInt8) : Writer := ⟨bs ++ buff.drop bs.length, bs.length⟩

lemma store_overwrite {buff bs new : List UInt8} (h : (bs ++ new).length ≤ buff.length) :
    store (overwrite buff bs).buff bs.length new = .ok (overwrite buff (bs ++ new)).buff := by
  rw [length_append] at h
  have hlen : (bs ++ buff.drop bs.length).length = buff.length := by
    rw [length_append, length_drop]
    omega
  have hpatch : patch (bs ++ buff.drop bs.length) bs.length new
      = bs ++ new ++ buff.drop (bs ++ new).length := by
    rw [patch, take_left, drop_append, drop_eq_nil_of_le (Nat.le_add_right _ _), nil_append,
      Nat.add_sub_cancel_left, drop_drop, length_append]
  rw [overwrite, store, if_pos (by rw [hlen]; exact h), hpatch, overwrite]

lemma put_overwrite {buff bs new : List UInt8} (h : (bs ++ new).length ≤ buff.length) :
    put new (overwrite buff bs) = .ok (overwrite buff (bs ++ new)) := by
  have hstore := store_overwrite h
  rw [overwrite] at hstore
  rw [put, overwrite, hstore, overwrite, length_append]
  rfl

lemma lieAt_overwrite (buff bs : List UInt8) : LieAt (overwrite buff bs).buff 0 bs := ⟨[], _, rfl, rfl⟩

end Writer

end Hal
