import Mathlib.Data.Int.Basic
import Mathlib.Tactic.Common

/-!
# Tables numbered in two ranges

A table whose rows carry numbers of their own: first rows numbered from `base` on, after them rows
numbered from `second` on.  A check walks the table once, remembers where the second range begins and
compares every row with its place; from a number an index is computed, and the row read there.

* `check_row` — what the check establishes, for any table that begins with a row of the first range.
* **`row_number_iff`** — the row read for a number has that number iff row and number are in the same
  range.  Nothing in the check keeps the index of a number of the first range below the rows of the
  second.
-/

namespace Hal

namespace Numbered

variable {ρ : Type*} (number : ρ → ℤ) (base second : ℤ)

/-- The check from row `i` on.  It carries the start of the second range, `0` until it is found, and
stops at the first row that is out of place. -/
def checkFrom : List ρ → ℕ → ℕ → Option ℕ
  | [], _, start => some start
  | row :: rest, i, start =>
    if number row < second then
      if i + base = number row then checkFrom rest (i + 1) start else none
    else
      let start := if start = 0 then i else start
      if i + second - start = number row then checkFrom rest (i + 1) start else none

/-- The whole check: where the second range starts, if every row is in place. -/
def check (table : List ρ) : Option ℕ := checkFrom number base second table 0 0

/-- What the check wants of the row at place `i`. -/
structure Placed (row : ρ) (i start : ℕ) : Prop where
  of_lt : number row < second → i + base = number row
  of_le : second ≤ number row → i + second - start = number row

def index (start : ℕ) (n : ℤ) : ℤ := if n < second then n - base else n - second + start

/-- The row at an index; `none` is a read outside the table. -/
def rowAt (table : List ρ) (i : ℤ) : Option ρ := if i < 0 then none else table[i.toNat]?

variable {row : ρ}

lemma rowAt_eq_some {table : List ρ} {i : ℤ} : rowAt table i = some row ↔ ∃ k : ℕ, i = k ∧ table[k]? = some row := by
  unfold rowAt
  constructor
  · intro h
    split_ifs at h with hneg
    exact ⟨i.toNat, by omega, h⟩
  · rintro ⟨k, rfl, hk⟩
    simpa using hk

variable {number base second} {start : ℕ}

lemma checkFrom_start {final : ℕ} (hstart : start ≠ 0) :
    ∀ {table : List ρ} {i : ℕ}, checkFrom number base second table i start = some final →
      final = start
  | [], _, h => by simpa [checkFrom, eq_comm] using h
  | row :: rest, i, h => by
    simp only [checkFrom, hstart, if_false] at h
    split_ifs at h <;> exact checkFrom_start hstart h

lemma checkFrom_row :
    ∀ {table : List ρ} {i start final k : ℕ} {row : ρ}, i ≠ 0 →
      checkFrom number base second table i start = some final → table[k]? = some row →
        Placed number base second row (i + k) final
  | [], _, _, _, _, _, _, _, hk => by simp at hk
  | head :: rest, i, start, final, k, row, hi, h, hk => by
    simp only [checkFrom] at h
    cases k with
    | zero =>
      obtain rfl : head = row := by simpa using hk
      by_cases hfirst : number head < second
      · simp only [hfirst, if_true] at h
        split_ifs at h with hplace
        exact ⟨fun _ => hplace, fun hle => absurd hfirst (Int.not_lt.mpr hle)⟩
      · -- the first row of the second range sets the start, a later one finds it set
        simp only [hfirst, if_false] at h
        generalize hset : (if start = 0 then i else start) = start' at h
        split_ifs at h with hplace
        have hne : start' ≠ 0 := by
          subst hset
          split_ifs with hzero
          exacts [hi, hzero]
        rw [checkFrom_start hne h]
        exact ⟨fun hlt => absurd hlt hfirst, fun _ => hplace⟩
    | succ k =>
      have hk' : rest[k]? = some row := by simpa using hk
      have hstep : i + (k + 1) = i + 1 + k := by omega
      rw [hstep]
      have hi' : i + 1 ≠ 0 := by omega
      split_ifs at h
      all_goals exact checkFrom_row hi' h hk'

/-- **What the check establishes**: in a table that begins with a row of the first range every row is
where its number says, counted from the table's start or from the start of the second range. -/
lemma check_row {head : ρ} {rest : List ρ} {i : ℕ}
    (h : check number base second (head :: rest) = some start) (hhead : number head < second)
    (hi : (head :: rest)[i]? = some row) : Placed number base second row i start := by
  simp only [check, checkFrom, hhead, if_true] at h
  split_ifs at h with hplace
  cases i with
  | zero =>
    obtain rfl : head = row := by simpa using hi
    exact ⟨fun _ => hplace, fun hle => absurd hhead (Int.not_lt.mpr hle)⟩
  | succ k =>
    have hk : rest[k]? = some row := by simpa using hi
    have hrow := checkFrom_row Nat.one_ne_zero h hk
    rwa [Nat.add_comm] at hrow

/-- **The row of a number has it** iff row and number are in the same range, in any table that passes
the check. -/
lemma row_number_iff {head : ρ} {rest : List ρ} {n : ℤ}
    (h : check number base second (head :: rest) = some start) (hhead : number head < second)
    (hrow : rowAt (head :: rest) (index base second start n) = some row) :
    number row = n ↔ (number row < second ↔ n < second) := by
  obtain ⟨k, hindex, hk⟩ := rowAt_eq_some.mp hrow
  obtain ⟨hfirst, hsecond⟩ := check_row h hhead hk
  simp only [index] at hindex
  split_ifs at hindex with hn
  · by_cases hrange : number row < second
    · omega
    · omega
  · by_cases hrange : number row < second
    · omega
    · omega

end Numbered

end Hal
