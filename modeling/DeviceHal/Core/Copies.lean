import Mathlib.Data.List.Induction
import Mathlib.Tactic.Ring

/-!
# Counting loops and the copies they make

Code that fills a buffer by `memcpy` in a loop: the loop decides which copies are made, in which order, and the
copies decide what is in the buffer.  The two are kept apart here.

* `InInt` — what an `int` holds.  Overflow is undefined, so a loop that overflows has no result.
* `forLoop` — `for (v = lo, k = 0; v < hi; k++, v += step)`, which collects what its body gives; `forLoop_eq_some_iff`
  says when it has a result and what the result is, round by round.
* `copyAll` — copies made one after the other; by `copyAll_eq` it is enough that all those that cover a place agree.
-/

namespace Hal

open List Option

def InInt (z : ℤ) : Prop := -2147483648 ≤ z ∧ z < 2147483648

instance (z : ℤ) : Decidable (InInt z) := inferInstanceAs (Decidable (_ ∧ _))

/-- The values of an expression and its parts are all held by an `int`. -/
def AllInt (zs : List ℤ) : Prop := ∀ z ∈ zs, InInt z

instance (zs : List ℤ) : Decidable (AllInt zs) := inferInstanceAs (Decidable (∀ z ∈ zs, InInt z))

lemma block_unique {m p q b : ℤ} (hb : 0 ≤ b) (hlt : b < m) (hle : p * m ≤ q * m + b)
    (hlt' : q * m + b < p * m + m) : p = q := by
  have hp : p < q + 1 := Int.lt_of_mul_lt_mul_right (by rw [Int.add_mul]; omega) (Int.le_of_lt (by omega : 0 < m))
  have hq : q < p + 1 := Int.lt_of_mul_lt_mul_right (by rw [Int.add_mul]; omega) (Int.le_of_lt (by omega : 0 < m))
  omega

/-! ## The loop -/

section Loop

variable {β : Type*}

/-- The loop from `v` and `k` on, at most `fuel - 1` rounds. -/
def countingLoop (hi step : ℤ) (body : ℤ → ℤ → Option (List β)) : ℕ → ℤ → ℤ → Option (List β)
  | 0, _, _ => none
  | fuel + 1, v, k =>
    if v < hi then
      (body v k).bind fun items =>
        if InInt (v + step) then (countingLoop hi step body fuel (v + step) (k + 1)).map (items ++ ·) else none
    else some []

/-- `for (v = lo, k = 0; v < hi; k++, v += step)`. -/
def forLoop (lo hi step : ℤ) (body : ℤ → ℤ → Option (List β)) : Option (List β) :=
  countingLoop hi step body ((hi - lo).toNat + 1) lo 0

def rounds (v hi step : ℤ) : ℕ := ((hi - v - 1) / step + 1).toNat

variable {hi step v : ℤ}

lemma lt_rounds_iff (hstep : 0 < step) {i : ℕ} : i < rounds v hi step ↔ v + i * step < hi := by
  have hdiv : (i : ℤ) ≤ (hi - v - 1) / step ↔ i * step ≤ hi - v - 1 := Int.le_ediv_iff_mul_le hstep
  unfold rounds
  omega

lemma rounds_eq_zero (hstep : 0 < step) (hle : hi ≤ v) : rounds v hi step = 0 := by
  have hzero : ¬ 0 < rounds v hi step := by
    rw [lt_rounds_iff hstep]
    simpa using hle
  omega

lemma rounds_succ (hstep : 0 < step) (hlt : v < hi) : rounds v hi step = rounds (v + step) hi step + 1 := by
  have hnext : (hi - (v + step) - 1) / step = (hi - v - 1) / step - 1 := by
    have hsub : hi - (v + step) - 1 = hi - v - 1 + (-1) * step := by ring
    rw [hsub, Int.add_mul_ediv_right _ _ (by omega)]
    rfl
  have hnonneg : 0 ≤ (hi - v - 1) / step := Int.ediv_nonneg (by omega) (by omega)
  unfold rounds
  omega

variable {body : ℤ → ℤ → Option (List β)} (C : ℤ → ℤ → Prop) (items : ℤ → ℤ → List β)

lemma countingLoop_eq_some_iff (hstep : 0 < step)
    (hbody : ∀ {v k : ℤ} {out : List β}, body v k = some out ↔ C v k ∧ out = items v k) {fuel : ℕ} {k : ℤ}
    {out : List β} (hfuel : (hi - v).toNat < fuel) :
    countingLoop hi step body fuel v k = some out
      ↔ (∀ i < rounds v hi step, C (v + i * step) (k + i) ∧ InInt (v + (i + 1) * step))
        ∧ out = (List.range (rounds v hi step)).flatMap fun i : ℕ => items (v + i * step) (k + i) := by
  induction fuel generalizing v k out with
  | zero => exact absurd hfuel (Nat.not_lt_zero _)
  | succ fuel ih =>
    by_cases hlt : v < hi
    · -- the first round is taken off the loop, and off the list of rounds
      have hvalue : ∀ i : ℕ, v + ((i + 1 : ℕ) : ℤ) * step = v + step + i * step := fun i => by
        push_cast
        ring
      have hnext : ∀ i : ℕ, v + (((i + 1 : ℕ) : ℤ) + 1) * step = v + step + (i + 1) * step := fun i => by
        push_cast
        ring
      have hcount : ∀ i : ℕ, k + ((i + 1 : ℕ) : ℤ) = k + 1 + i := fun i => by
        push_cast
        ring
      have hfirst : (C (v + ((0 : ℕ) : ℤ) * step) (k + ((0 : ℕ) : ℤ)) ∧ InInt (v + (((0 : ℕ) : ℤ) + 1) * step))
          ↔ C v k ∧ InInt (v + step) := by simp
      rw [rounds_succ hstep hlt, Nat.forall_lt_succ_left, hfirst, range_succ_eq_map, flatMap_cons, flatMap_map]
      simp only [countingLoop, hlt, if_true, bind_eq_some_iff, hbody, Nat.succ_eq_add_one, hvalue, hnext,
        hcount, Nat.cast_zero, zero_mul, add_zero]
      constructor
      · rintro ⟨first, ⟨hC, rfl⟩, hrest⟩
        split_ifs at hrest with hint
        obtain ⟨rest, hloop, rfl⟩ := map_eq_some_iff.mp hrest
        obtain ⟨hall, rfl⟩ := (ih (by omega)).mp hloop
        exact ⟨⟨⟨hC, hint⟩, hall⟩, rfl⟩
      · rintro ⟨⟨⟨hC, hint⟩, hall⟩, rfl⟩
        refine ⟨items v k, ⟨hC, rfl⟩, ?_⟩
        rw [if_pos hint]
        exact map_eq_some_iff.mpr ⟨_, (ih (by omega)).mpr ⟨hall, rfl⟩, rfl⟩
    · have hrounds := rounds_eq_zero hstep (Int.not_lt.mp hlt)
      simp [countingLoop, hlt, hrounds, eq_comm]

/-- **The loop** has a result iff its body has one in each round and the counter does not overflow, and then it is
theirs in order.  The conclusion has the shape of the hypothesis, for a loop inside a loop. -/
theorem forLoop_eq_some_iff {lo : ℤ} (hstep : 0 < step)
    (hbody : ∀ {v k : ℤ} {out : List β}, body v k = some out ↔ C v k ∧ out = items v k) {out : List β} :
    forLoop lo hi step body = some out
      ↔ (∀ i < rounds lo hi step, C (lo + i * step) i ∧ InInt (lo + (i + 1) * step))
        ∧ out = (List.range (rounds lo hi step)).flatMap fun i : ℕ => items (lo + i * step) i := by
  unfold forLoop
  simpa only [Int.zero_add] using countingLoop_eq_some_iff C items hstep hbody (k := 0) (Nat.lt_succ_self (hi - lo).toNat)

end Loop

/-! ## The copies -/

/-- `memcpy`, with the places relative to the two buffers. -/
structure Memcpy where
  dst : ℤ
  src : ℤ
  len : ℤ

def Memcpy.Covers (c : Memcpy) (a : ℤ) : Prop := c.dst ≤ a ∧ a < c.dst + c.len

instance (c : Memcpy) (a : ℤ) : Decidable (c.Covers a) := inferInstanceAs (Decidable (_ ∧ _))

def Memcpy.origin (c : Memcpy) (a : ℤ) : ℤ := c.src + (a - c.dst)

section Contents

variable {β : Type*}

def Memcpy.apply (content : ℤ → β) (dst : ℤ → β) (c : Memcpy) : ℤ → β :=
  fun a => if c.Covers a then content (c.origin a) else dst a

/-- What is in the buffer after the copies. -/
def copyAll (content : ℤ → β) (dst : ℤ → β) (copies : List Memcpy) : ℤ → β :=
  copies.foldl (Memcpy.apply content) dst

/-- **It is enough that the copies that cover a place agree.** -/
theorem copyAll_eq {content dst : ℤ → β} {copies : List Memcpy} {a : ℤ} {b : β}
    (hcover : ∃ c ∈ copies, c.Covers a) (hagree : ∀ c ∈ copies, c.Covers a → content (c.origin a) = b) :
    copyAll content dst copies a = b := by
  induction copies using List.reverseRecOn with
  | nil =>
    obtain ⟨c, hc, -⟩ := hcover
    exact absurd hc not_mem_nil
  | append_singleton copies c ih =>
    simp only [copyAll, foldl_append, foldl_cons, foldl_nil, Memcpy.apply]
    split_ifs with hlast
    · exact hagree c (mem_append_right _ (mem_singleton_self c)) hlast
    · obtain ⟨c', hc', hcovers⟩ := hcover
      rcases mem_append.mp hc' with hmem | hmem
      · exact ih ⟨c', hmem, hcovers⟩ fun d hd => hagree d (mem_append_left _ hd)
      · rw [mem_singleton.mp hmem] at hcovers
        exact absurd hcovers hlast

end Contents

end Hal
