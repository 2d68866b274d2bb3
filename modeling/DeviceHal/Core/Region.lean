import Mathlib.Data.List.Basic

/-!
# Regions of memory

The blocks that belong to one object, on the heap or in a stack frame.  An address is an index, and is
never used again: what a pointer leads to is live or it is not, and each block counts how often it was
freed.  A region is owned by whoever holds it, so that two regions cannot interfere.

* `FreedOnce` — each block of the heap has been freed once.
* `Owned` — each block is led to by one of a list of pointers.  **`Owned.freedOnce`**: freeing them all frees each
  block once; `Owned.not_freedOnce`: a pointer that is left out is a block that is lost.
-/

namespace Hal

open List Option

structure Block (κ : Type) where
  cell : κ
  onStack : Bool
  live : Bool
  frees : ℕ
deriving DecidableEq

abbrev Region (κ : Type) : Type := List (Block κ)

namespace Region

variable {κ : Type}

/-- A new block; its address is the length of the region before. -/
def alloc (m : Region κ) (onStack : Bool) (c : κ) : Region κ := m ++ [⟨c, onStack, true, 0⟩]

/-- What is at an address, while the block is live. -/
def read (m : Region κ) (a : ℕ) : Option κ :=
  m[a]?.bind fun b => if b.live then some b.cell else none

/-- `free`, which does nothing to a null pointer. -/
def free (m : Region κ) : Option ℕ → Region κ
  | none => m
  | some a => m.modify a fun b => { b with live := false, frees := b.frees + 1 }

def freeAll (m : Region κ) (ps : List (Option ℕ)) : Region κ := ps.foldl free m

/-- The function whose frame it was returns. -/
def popStack (m : Region κ) : Region κ :=
  m.map fun b => if b.onStack then { b with live := false } else b

/-- Every block of the heap has been freed exactly once. -/
def FreedOnce (m : Region κ) : Prop := ∀ b ∈ m, b.onStack = false → b.frees = 1

instance (m : Region κ) : Decidable m.FreedOnce :=
  inferInstanceAs (Decidable (∀ b ∈ m, _ → _))

variable {m : Region κ} {ps : List (Option ℕ)} {a : ℕ}

lemma getElem?_free_of_ne {p : Option ℕ} (h : p ≠ some a) : (m.free p)[a]? = m[a]? := by
  cases p with
  | none => rfl
  | some i => exact getElem?_modify_ne _ _ fun hi => h (by rw [hi])

lemma getElem?_freeAll_of_notMem (h : some a ∉ ps) : (m.freeAll ps)[a]? = m[a]? := by
  induction ps generalizing m with
  | nil => rfl
  | cons p ps ih =>
    rw [mem_cons, not_or] at h
    show ((m.free p).freeAll ps)[a]? = _
    rw [ih h.2, getElem?_free_of_ne (Ne.symm h.1)]

variable {b : Block κ}

lemma not_freedOnce_of_getElem? (h : m[a]? = some b)
    (hheap : b.onStack = false) (hfrees : b.frees ≠ 1) : ¬ m.FreedOnce :=
  fun honce => hfrees (honce b (mem_of_getElem? h) hheap)

/-! ## Ownership -/

def update (m : Region κ) (a : ℕ) (f : κ → κ) : Region κ := m.modify a fun b => { b with cell := f b.cell }

/-- Nothing has been freed yet, and each block is led to by exactly one of the pointers. -/
structure Owned (m : Region κ) (ps : List (Option ℕ)) : Prop where
  fresh : ∀ b ∈ m, b.frees = 0
  once : ∀ a, ps.count (some a) = if a < m.length then 1 else 0

lemma length_alloc (m : Region κ) (onStack : Bool) (c : κ) : (m.alloc onStack c).length = m.length + 1 := by
  rw [alloc, length_append, length_singleton]

theorem owned_nil : Owned ([] : Region κ) [] := ⟨by simp, by simp⟩

lemma Owned.null (h : m.Owned ps) : m.Owned (ps ++ [none]) := by
  refine ⟨h.fresh, fun a => ?_⟩
  rw [count_append, h.once, count_singleton]
  rfl

lemma Owned.alloc (h : m.Owned ps) (onStack : Bool) (c : κ) : (m.alloc onStack c).Owned (ps ++ [some m.length]) := by
  constructor
  · intro b hb
    rcases mem_append.mp hb with hold | hnew
    · exact h.fresh b hold
    · rw [mem_singleton.mp hnew]
  · intro a
    rw [count_append, h.once, count_singleton, length_alloc]
    by_cases ha : a = m.length
    · simp [ha]
    · have hne : (some m.length == some a) = false := by simpa using fun h => ha h.symm
      rw [hne, if_neg Bool.false_ne_true, Nat.add_zero]
      exact if_congr (by omega) rfl rfl

lemma Owned.perm {qs : List (Option ℕ)} (h : m.Owned ps) (hperm : ps.Perm qs) : m.Owned qs :=
  ⟨h.fresh, fun a => (hperm.count_eq (some a)).symm.trans (h.once a)⟩

lemma Owned.update (h : m.Owned ps) (i : ℕ) (f : κ → κ) : (m.update i f).Owned ps := by
  constructor
  · intro b hb
    obtain ⟨a, hget⟩ := mem_iff_getElem?.mp hb
    rw [Region.update, getElem?_modify] at hget
    obtain ⟨b', hb', rfl⟩ := map_eq_some_iff.mp hget
    have hfresh := h.fresh b' (mem_of_getElem? hb')
    split_ifs
    · exact hfresh
    · exact hfresh
  · intro a
    rw [h.once, Region.update, length_modify]

lemma getElem?_freeAll (m : Region κ) (ps : List (Option ℕ)) (a : ℕ) :
    (m.freeAll ps)[a]?.map (fun b => (b.onStack, b.frees))
      = m[a]?.map fun b => (b.onStack, b.frees + ps.count (some a)) := by
  induction ps generalizing m with
  | nil => rfl
  | cons p ps ih =>
    show ((m.free p).freeAll ps)[a]?.map _ = _
    rw [ih, count_cons]
    by_cases hp : p = some a
    · subst hp
      rw [free, getElem?_modify_eq, Option.map_eq_map, Option.map_map]
      simp [Function.comp_def, Nat.add_assoc, Nat.add_comm 1]
    · rw [getElem?_free_of_ne hp]
      simp [hp]

lemma freedOnce_freeAll_iff :
    (m.freeAll ps).FreedOnce ↔ ∀ a b, m[a]? = some b → b.onStack = false → b.frees + ps.count (some a) = 1 := by
  constructor
  · intro h a b hb hheap
    have hcount := getElem?_freeAll m ps a
    rw [hb, map_some] at hcount
    obtain ⟨b', hb', heq⟩ := map_eq_some_iff.mp hcount
    obtain ⟨hstack, hfrees⟩ := Prod.mk.inj heq
    rw [← hfrees]
    exact h b' (mem_of_getElem? hb') (hstack.trans hheap)
  · intro h b hb hheap
    obtain ⟨a, hget⟩ := mem_iff_getElem?.mp hb
    have hcount := getElem?_freeAll m ps a
    rw [hget, map_some] at hcount
    obtain ⟨b', hb', heq⟩ := map_eq_some_iff.mp hcount.symm
    obtain ⟨hstack, hfrees⟩ := Prod.mk.inj heq
    rw [← hfrees]
    exact h a b' hb' (hstack.trans hheap)

lemma Owned.frees_add_count (h : m.Owned ps) (hb : m[a]? = some b) : b.frees + ps.count (some a) = 1 := by
  rw [h.fresh b (mem_of_getElem? hb), h.once, if_pos (List.getElem?_eq_some_iff.mp hb).1]

/-- **Freeing what is owned** frees each block once. -/
theorem Owned.freedOnce (h : m.Owned ps) : (m.freeAll ps).FreedOnce :=
  freedOnce_freeAll_iff.mpr fun _ _ hb _ => h.frees_add_count hb

/-- A block of the stack frame besides does not matter. -/
theorem Owned.freedOnce_stack (h : m.Owned ps) (c : κ) : ((m.alloc true c).freeAll ps).FreedOnce := by
  refine freedOnce_freeAll_iff.mpr fun a b hb hheap => ?_
  rcases Nat.lt_trichotomy a m.length with hlt | rfl | hgt
  · rw [Region.alloc, getElem?_append_left hlt] at hb
    exact h.frees_add_count hb
  · rw [Region.alloc, getElem?_concat_length] at hb
    cases hb
    cases hheap
  · rw [getElem?_eq_none (by rw [length_alloc]; omega)] at hb
    cases hb

/-- The block behind a pointer that is left out is lost. -/
theorem Owned.not_freedOnce (h : m.Owned (some a :: ps))
    (hb : m[a]? = some b) (hheap : b.onStack = false) : ¬ (m.freeAll ps).FreedOnce := by
  intro honce
  have hfreed := freedOnce_freeAll_iff.mp honce a b hb hheap
  have hcount := h.frees_add_count hb
  rw [count_cons_self] at hcount
  omega

end Region

end Hal
