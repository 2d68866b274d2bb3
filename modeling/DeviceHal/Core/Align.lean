import Mathlib.Order.Bounds.Basic
import Mathlib.Tactic.Common

/-!
# Rounding up to an alignment

The least multiple of an alignment from a size on (`IsAlignCeil`) is found by a division.  Code that masks the low bits
off instead computes the same if the alignment is a power of two, and already for the size 1 something else if it is
not.

* `isAlignCeil_div_mul` — rounding by division.
* `toNat_and_not_sub_one` — what masking does for a power of two.
* `isPowerOfTwo_of_and_not_sub_one` — and that nothing else is left alone by its own mask.
-/

namespace Hal

/-- The least multiple of `a` from `x` on. -/
def IsAlignCeil (a x y : ℕ) : Prop := IsLeast {y | a ∣ y ∧ x ≤ y} y

lemma isAlignCeil_div_mul {a : ℕ} (ha : 0 < a) (x : ℕ) : IsAlignCeil a x ((x + a - 1) / a * a) := by
  have hdiv := Nat.div_add_mod (x + a - 1) a
  have hmod := Nat.mod_lt (x + a - 1) ha
  rw [Nat.mul_comm] at hdiv
  refine ⟨⟨Nat.dvd_mul_left a _, by omega⟩, ?_⟩
  rintro y ⟨⟨k, rfl⟩, hx⟩
  rw [Nat.mul_comm a k]
  refine Nat.mul_le_mul_right a ?_
  -- the quotient is below `k + 1`, since `x + a - 1` is below `(k + 1) * a`
  rw [← Nat.lt_succ_iff, Nat.div_lt_iff_lt_mul ha, Nat.succ_mul, Nat.mul_comm k a]
  omega

lemma isAlignCeil_one {a : ℕ} (ha : 0 < a) : IsAlignCeil a 1 a :=
  ⟨⟨Nat.dvd_refl a, ha⟩, fun _ hy => Nat.le_of_dvd hy.2 hy.1⟩

variable {w : ℕ} {a : BitVec w}

lemma toNat_sub_one (ha : 0 < a.toNat) : (a - 1#w).toNat = a.toNat - 1 := by
  have hw : 1 % 2 ^ w = 1 := Nat.mod_eq_of_lt (by omega)
  rw [BitVec.toNat_sub, BitVec.toNat_ofNat, hw]
  have hsum : 2 ^ w - 1 + a.toNat = a.toNat - 1 + 2 ^ w := by omega
  rw [hsum, Nat.add_mod_right, Nat.mod_eq_of_lt (by omega)]

/-- **The mask of a power of two** rounds down to a multiple of it. -/
lemma toNat_and_not_sub_one (ha : a.toNat.isPowerOfTwo) (y : BitVec w) :
    (y &&& ~~~(a - 1#w)).toNat = y.toNat / a.toNat * a.toNat := by
  have hmask := toNat_sub_one (Nat.pos_of_isPowerOfTwo ha)
  obtain ⟨k, hk⟩ := ha
  rw [hk] at hmask ⊢
  refine Nat.eq_of_testBit_eq fun i => ?_
  have hbit : (a - 1#w).getLsbD i = decide (i < k) := by
    rw [BitVec.getLsbD, hmask, Nat.testBit_two_pow_sub_one]
  rw [Nat.testBit_mul_two_pow, Nat.testBit_div_two_pow, ← BitVec.getLsbD, BitVec.getLsbD_and, BitVec.getLsbD_not, hbit]
  by_cases hki : k ≤ i
  · have hlt : ¬ i < k := Nat.not_lt.mpr hki
    by_cases hiw : i < w
    · simp [hki, hlt, hiw, BitVec.getLsbD]
    · have hzero : y.toNat.testBit i = false := BitVec.getLsbD_of_ge y i (Nat.not_lt.mp hiw)
      simp [hki, hiw, hzero, BitVec.getLsbD]
  · have hlt : i < k := Nat.lt_of_not_le hki
    simp [hki, hlt]

/-- **Only a power of two is left alone by its own mask.** -/
lemma isPowerOfTwo_of_and_not_sub_one (ha : 0 < a.toNat) (h : a &&& ~~~(a - 1#w) = a) : a.toNat.isPowerOfTwo := by
  have hand : a &&& (a - 1#w) = 0#w := calc
    a &&& (a - 1#w) = (a &&& ~~~(a - 1#w)) &&& (a - 1#w) := by rw [h]
    _ = a &&& ((a - 1#w) &&& ~~~(a - 1#w)) := by rw [BitVec.and_assoc, BitVec.and_comm (~~~(a - 1#w))]
    _ = 0#w := by simp
  have hnat := congrArg BitVec.toNat hand
  rw [BitVec.toNat_and, toNat_sub_one ha, BitVec.toNat_ofNat, Nat.zero_mod] at hnat
  exact (Nat.and_sub_one_eq_zero_iff_isPowerOfTwo (Nat.ne_of_gt ha)).mp hnat

end Hal
