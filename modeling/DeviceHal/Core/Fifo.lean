import Mathlib.Data.Nat.ModEq
import DeviceHal.Core.Machine

/-!
# Bounded FIFOs and circular arrays

**The abstract queue.**  `BoundedFifo` carries its bound as a field, so an overfull queue cannot
be written down.  Its operations are labelled with the data they move — `enqueue es` appends a
batch, `dequeue e` removes `e` and is enabled only when `e` is the oldest item — so a run of
labels *is* a history, and `BoundedFifo.conservation` reads first-in-first-out off it: what went
in is what came out followed by what is still there.

**The concrete layout.**  `ringWindow cap data start n` is the content of `n` consecutive cells of
a circular array.  Everything a ring buffer needs is in the lemmas about it: distinct offsets
below `cap` are distinct cells (`ringIndex_injOn`), a window splits at any offset
(`ringWindow_append`), and writing a cell outside it does not change it
(`ringWindow_update_of_notMem`).
-/

namespace Hal

open List Function

variable {α : Type*}

/-! ## The abstract queue -/

/-- A first-in-first-out queue of at most `capacity` items, the oldest first. -/
structure BoundedFifo (α : Type*) where
  capacity : ℕ
  items : List α
  fits : items.length ≤ capacity

/-- The operations, labelled with the data they move. -/
inductive FifoOp (α : Type*) where
  | enqueue (es : List α)
  | dequeue (e : α)

namespace BoundedFifo

def empty (capacity : ℕ) : BoundedFifo α := ⟨capacity, [], Nat.zero_le _⟩

open Classical in
/-- One operation of the abstract queue. -/
noncomputable def step (q : BoundedFifo α) : FifoOp α → Option (BoundedFifo α)
  | .enqueue es =>
    if h : (q.items ++ es).length ≤ q.capacity then some ⟨q.capacity, q.items ++ es, h⟩ else none
  | .dequeue e =>
    if q.items.head? = some e then
      some ⟨q.capacity, q.items.tail, by have := q.fits; simp only [length_tail]; omega⟩
    else none

lemma step_enqueue (q : BoundedFifo α) (es : List α) (h : (q.items ++ es).length ≤ q.capacity) :
    q.step (.enqueue es) = some ⟨q.capacity, q.items ++ es, h⟩ := by
  simp only [step, h, dite_true]

lemma step_dequeue (q : BoundedFifo α) (e : α) (es : List α) (h : q.items = e :: es)
    (hfits : es.length ≤ q.capacity) : q.step (.dequeue e) = some ⟨q.capacity, es, hfits⟩ := by
  simp [step, h]

end BoundedFifo

/-- The items a history put in, in order. -/
def enqueued : List (FifoOp α) → List α
  | [] => []
  | .enqueue es :: ops => es ++ enqueued ops
  | .dequeue _ :: ops => enqueued ops

/-- The items a history took out, in order. -/
def dequeued : List (FifoOp α) → List α
  | [] => []
  | .enqueue _ :: ops => dequeued ops
  | .dequeue e :: ops => e :: dequeued ops

/-- **First in, first out.**  Along any run of the abstract queue, what was there followed by what
went in is what came out followed by what is left. -/
theorem BoundedFifo.conservation {ops : List (FifoOp α)} {q q' : BoundedFifo α}
    (h : run BoundedFifo.step q ops = some q') : q.items ++ enqueued ops = dequeued ops ++ q'.items := by
  induction ops generalizing q with
  | nil =>
    simp only [run_nil, Option.some.injEq] at h
    simp [enqueued, dequeued, h]
  | cons op ops ih =>
    obtain ⟨m, hm, hrest⟩ := run_cons_eq_some.mp h
    have hih := ih hrest
    cases op with
    | enqueue es =>
      simp only [step, Option.dite_none_right_eq_some, Option.some.injEq] at hm
      obtain ⟨_, rfl⟩ := hm
      simpa only [enqueued, dequeued, append_assoc] using hih
    | dequeue e =>
      simp only [step, Option.ite_none_right_eq_some, Option.some.injEq] at hm
      obtain ⟨hhead, rfl⟩ := hm
      have hcons : q.items = e :: q.items.tail := (cons_head?_tail hhead).symm
      rw [hcons, enqueued, dequeued, cons_append, cons_append]
      exact congrArg (e :: ·) hih

/-! ## Circular arrays -/

/-- The `n` cells of a circular array of size `cap` that start at cell `start`, in order. -/
def ringWindow (cap : ℕ) (data : ℕ → α) (start n : ℕ) : List α :=
  (List.range n).map fun j => data ((start + j) % cap)

@[simp] lemma length_ringWindow (cap : ℕ) (data : ℕ → α) (start n : ℕ) :
    (ringWindow cap data start n).length = n := by
  simp [ringWindow]

@[simp] lemma ringWindow_zero (cap : ℕ) (data : ℕ → α) (start : ℕ) : ringWindow cap data start 0 = [] := rfl

lemma ringIndex_injOn {cap start i j : ℕ} (hi : i < cap) (hj : j < cap)
    (h : (start + i) % cap = (start + j) % cap) : i = j := by
  have hmod : i ≡ j [MOD cap] := Nat.ModEq.add_left_cancel' start h
  rwa [Nat.ModEq, Nat.mod_eq_of_lt hi, Nat.mod_eq_of_lt hj] at hmod

lemma exists_ringIndex_eq {cap i : ℕ} (start : ℕ) (hi : i < cap) : ∃ j < cap, (start + j) % cap = i := by
  refine ⟨(i + (cap - start % cap)) % cap, Nat.mod_lt _ (by omega), ?_⟩
  have hlt : start % cap < cap := Nat.mod_lt _ (by omega)
  have hdiv := Nat.div_add_mod start cap
  have hsplit : start + (i + (cap - start % cap)) = i + cap * (start / cap + 1) := by
    rw [Nat.mul_add]; omega
  rw [Nat.add_mod_mod, hsplit, Nat.add_mul_mod_self_left, Nat.mod_eq_of_lt hi]

lemma ringWindow_append (cap : ℕ) (data : ℕ → α) (start n m : ℕ) :
    ringWindow cap data start (n + m)
      = ringWindow cap data start n ++ ringWindow cap data ((start + n) % cap) m := by
  simp only [ringWindow, range_add, map_append, map_map]
  refine congrArg _ (map_congr_left fun j _ => ?_)
  simp [Nat.add_assoc]

lemma ringWindow_succ {cap start : ℕ} (data : ℕ → α) (n : ℕ) (hstart : start < cap) :
    ringWindow cap data start (n + 1)
      = data start :: ringWindow cap data ((start + 1) % cap) n := by
  rw [Nat.add_comm n 1, ringWindow_append]
  simp [ringWindow, Nat.mod_eq_of_lt hstart]

lemma ringWindow_update_of_notMem {cap start n k : ℕ} (data : ℕ → α) (v : α) (h : ∀ j < n, (start + j) % cap ≠ k) :
    ringWindow cap (update data k v) start n = ringWindow cap data start n := by
  refine map_congr_left fun j hj => ?_
  rw [update_of_ne (h j (mem_range.mp hj))]

end Hal
