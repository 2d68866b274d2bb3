import Mathlib.Data.Int.Basic

/-!
# `struct timeval`

The three macros of `sys/time.h` that `ril_event.cpp` uses, on seconds and microseconds, and that on well-formed values
they are addition, subtraction and comparison of microseconds.  The seconds are not wrapped: that a sum is a `time_t` is
an assumption, and follows for the difference of two times since a clock began to count.
-/

namespace Hal

/-- `struct timeval`. -/
structure Timeval where
  tvSec : ℤ
  tvUsec : ℤ
deriving DecidableEq, Inhabited

namespace Timeval

/-- The seconds are a `time_t`, of 32 bits. -/
def Fits (t : Timeval) : Prop := -2147483648 ≤ t.tvSec ∧ t.tvSec < 2147483648

instance (t : Timeval) : Decidable t.Fits := inferInstanceAs (Decidable (_ ∧ _))

def WellFormed (t : Timeval) : Prop := (0 ≤ t.tvUsec ∧ t.tvUsec < 1000000) ∧ t.Fits

instance (t : Timeval) : Decidable t.WellFormed := inferInstanceAs (Decidable (_ ∧ _))

def micros (t : Timeval) : ℤ := t.tvSec * 1000000 + t.tvUsec

/-- `timeradd(tvp, uvp, vvp)`. -/
def timeradd (tvp uvp : Timeval) : Timeval :=
  let tvSec := tvp.tvSec + uvp.tvSec
  let tvUsec := tvp.tvUsec + uvp.tvUsec
  if tvUsec ≥ 1000000 then ⟨tvSec + 1, tvUsec - 1000000⟩ else ⟨tvSec, tvUsec⟩

/-- `timersub(a, b, res)`. -/
def timersub (a b : Timeval) : Timeval :=
  let tvSec := a.tvSec - b.tvSec
  let tvUsec := a.tvUsec - b.tvUsec
  if tvUsec < 0 then ⟨tvSec - 1, tvUsec + 1000000⟩ else ⟨tvSec, tvUsec⟩

/-- `timercmp(a, b, <)`; `timercmp(a, b, >)` is `timercmp(b, a, <)`. -/
def timercmpLt (a b : Timeval) : Bool :=
  if a.tvSec = b.tvSec then a.tvUsec < b.tvUsec else a.tvSec < b.tvSec

lemma timeradd_wellFormed {a b : Timeval} (ha : a.WellFormed) (hb : b.WellFormed) (hfits : (timeradd a b).Fits) :
    (timeradd a b).WellFormed := by
  obtain ⟨⟨ha₀, ha₁⟩, -⟩ := ha
  obtain ⟨⟨hb₀, hb₁⟩, -⟩ := hb
  refine ⟨?_, hfits⟩
  simp only [timeradd]
  split_ifs <;> constructor <;> dsimp only <;> omega

/-- What is left until a later time fits as well. -/
lemma timersub_wellFormed {a b : Timeval} (ha : a.WellFormed) (hb : b.WellFormed) (hpos : 0 ≤ b.tvSec)
    (hlt : timercmpLt b a = true) : (timersub a b).WellFormed := by
  obtain ⟨⟨ha₀, ha₁⟩, -, ha₂⟩ := ha
  obtain ⟨⟨hb₀, hb₁⟩, -⟩ := hb
  simp only [timercmpLt] at hlt
  simp only [timersub, WellFormed, Fits]
  split_ifs at hlt ⊢ <;> simp only [decide_eq_true_eq] at hlt ⊢ <;> omega

@[simp] lemma micros_timersub (a b : Timeval) : (timersub a b).micros = a.micros - b.micros := by
  simp only [timersub]
  split_ifs <;> simp only [micros] <;> omega

/-- On well-formed values the lexicographic comparison compares microseconds. -/
lemma timercmpLt_iff {a b : Timeval} (ha : a.WellFormed) (hb : b.WellFormed) :
    timercmpLt a b = true ↔ a.micros < b.micros := by
  obtain ⟨⟨ha₀, ha₁⟩, -⟩ := ha
  obtain ⟨⟨hb₀, hb₁⟩, -⟩ := hb
  simp only [timercmpLt, micros]
  split_ifs <;> simp only [decide_eq_true_eq] <;> omega

end Timeval

end Hal
