import DeviceHal.Core.Fifo

/-!
# The ring buffer

`RingBuffer` keeps the last elements that were pushed, in a vector of `mSize` cells with the next cell to write at
`mHead`, and counts the pushes.  An element is stored by `replaceAt`, or by a pusher, which writes the cell at `mHead`
itself and says whether it has succeeded.  A dumper reads the elements by their age.

**The defects.**  `getItem` adds the position of the oldest element and the index in 32 bits, so that the sum wraps
around if there are more than 2³¹ cells.  And a pusher that has written the cell and fails has written over the oldest
element, if the buffer is full.

* `RingBuffer.resize`, `push`, `getItem`, `getValidSize` — the class, with fixed-width arithmetic.
* `PushHistory` — what it is for: the pushes since the last resize that had an effect, of which the last `capacity`
  are kept.
* `RingRun.Inv` — the cell at `k % mSize` has the `k`-th push, for each that is kept.
* **`ring_refines_iff`** — when the buffer shows what is kept.
-/

namespace Hal

open List Option

structure RingBuffer (α : Type*) where
  mBuffer : List α
  mHead : ℕ
  mSize : ℕ
  mCount : ℕ

/-- How an element is pushed: by `replaceAt`, by a pusher that writes it, or by one that fails, after it may have
written. -/
inductive Pushing (α : Type*) where
  | plain (v : α)
  | pusher (v : α)
  | pusherFails (written : Option α)

inductive RingAct (α : Type*) where
  | resize (size : ℕ)
  | push (how : Pushing α)

namespace RingBuffer

variable {α : Type*}

def getValidSize (s : RingBuffer α) : ℕ := if s.mSize < s.mCount then s.mSize else s.mCount

def oldest (s : RingBuffer α) : ℕ := if s.mCount > s.mSize then s.mHead else 0

/-- `Dumper::getItem`; `none` if there is no cell. -/
def getItem (s : RingBuffer α) (idx : ℕ) : Option α :=
  if s.mSize = 0 then none else s.mBuffer[(s.oldest + idx) % 2 ^ 32 % s.mSize]?

/-- The vector is filled with what the constructor of the type makes. -/
def resize [Inhabited α] (s : RingBuffer α) (size : ℕ) : RingBuffer α :=
  if s.mSize ≠ size then ⟨List.replicate size default, 0, size, 0⟩ else s

/-- The cell at `mHead`; `replaceAt` does nothing if there is none. -/
def store (s : RingBuffer α) (v : α) : RingBuffer α := { s with mBuffer := s.mBuffer.set s.mHead v }

def advance (s : RingBuffer α) : RingBuffer α :=
  let mHead := (s.mHead + 1) % 2 ^ 32
  { s with mHead := if mHead ≥ s.mSize then 0 else mHead, mCount := (s.mCount + 1) % 2 ^ 64 }

/-- `push`, with the count it returns; `none` if a pusher writes where there is no cell. -/
def push (s : RingBuffer α) : Pushing α → Option (ℕ × RingBuffer α)
  | .plain v => some (s.mCount % 2 ^ 32, (s.store v).advance)
  | .pusher v => if s.mHead < s.mBuffer.length then some (s.mCount % 2 ^ 32, (s.store v).advance) else none
  | .pusherFails none => some (s.mCount % 2 ^ 32, s)
  | .pusherFails (some v) => if s.mHead < s.mBuffer.length then some (s.mCount % 2 ^ 32, s.store v) else none

end RingBuffer

/-- The pushes that succeeded, since the last resize that had an effect. -/
structure PushHistory (α : Type*) where
  capacity : ℕ
  pushes : List α

namespace PushHistory

variable {α : Type*}

/-- The bounded queue: the last `capacity` of them, the oldest first. -/
def kept (h : PushHistory α) : List α := h.pushes.drop (h.pushes.length - h.capacity)

def step (h : PushHistory α) : RingAct α → PushHistory α
  | .resize size => if h.capacity ≠ size then ⟨size, []⟩ else h
  | .push (.plain v) => { h with pushes := h.pushes ++ [v] }
  | .push (.pusher v) => { h with pushes := h.pushes ++ [v] }
  | .push (.pusherFails _) => h

lemma length_kept (h : PushHistory α) : h.kept.length = min h.capacity h.pushes.length := by
  rw [kept, length_drop]
  omega

end PushHistory

structure RingRun (α : Type*) where
  ring : RingBuffer α
  history : PushHistory α

namespace RingRun

variable {α : Type*}

def Refines (r : RingRun α) : Prop :=
  r.ring.getValidSize = r.history.kept.length
    ∧ ∀ i < r.ring.getValidSize, r.ring.getItem i = r.history.kept[i]?

/-- The operations, with sizes up to a limit; pushers that fail may have written or not. -/
def Legal (limit : ℕ) (failWrites : Bool) : RingAct α → Prop
  | .resize size => 1 ≤ size ∧ size ≤ limit
  | .push (.pusherFails (some _)) => failWrites = true
  | .push _ => True

instance (limit : ℕ) (failWrites : Bool) : DecidablePred (Legal limit failWrites : RingAct α → Prop)
  | .resize size => inferInstanceAs (Decidable (1 ≤ size ∧ size ≤ limit))
  | .push (.pusherFails (some _)) => inferInstanceAs (Decidable (failWrites = true))
  | .push (.pusherFails none) | .push (.plain _) | .push (.pusher _) => isTrue trivial

/-! ## The cells -/

/-- Each push that is kept is in its cell, and the next one is due at `mHead`. -/
structure Inv (limit : ℕ) (r : RingRun α) : Prop where
  size : r.ring.mSize = r.history.capacity
  size_le : r.ring.mSize ≤ limit
  length : r.ring.mBuffer.length = r.ring.mSize
  count : r.ring.mCount = r.history.pushes.length
  head : r.ring.mHead = if r.ring.mSize = 0 then 0 else r.history.pushes.length % r.ring.mSize
  cell : ∀ k < r.history.pushes.length, r.history.pushes.length ≤ k + r.ring.mSize →
    r.ring.mBuffer[k % r.ring.mSize]? = r.history.pushes[k]?

variable {limit : ℕ} {r r' : RingRun α}

lemma succ_mod_eq (c n : ℕ) (hn : 0 < n) : (c + 1) % n = if c % n + 1 ≥ n then 0 else c % n + 1 := by
  have hlt := Nat.mod_lt c hn
  rw [← Nat.mod_add_mod]
  split_ifs with hend
  · have heq : c % n + 1 = n := Nat.le_antisymm hlt hend
    rw [heq, Nat.mod_self]
  · exact Nat.mod_eq_of_lt (Nat.lt_of_not_le hend)

lemma mod_ne_mod {k c n : ℕ} (hlt : k < c) (hle : c < k + n) : c % n ≠ k % n := by
  intro heq
  have hsame : (k + 0) % n = (k + (c - k)) % n := by
    rw [Nat.add_zero, Nat.add_sub_cancel' (Nat.le_of_lt hlt), heq]
  have hzero := ringIndex_injOn (by omega) (by omega) hsame
  omega

/-- **A push that succeeds.** -/
lemma Inv.push (h : r.Inv limit) (hlimit : limit < 2 ^ 32) (hcount : r.ring.mCount < 2 ^ 64 - 1) (v : α) :
    Inv limit ⟨(r.ring.store v).advance, { r.history with pushes := r.history.pushes ++ [v] }⟩ := by
  have hlength : (r.history.pushes ++ [v]).length = r.history.pushes.length + 1 := by simp
  constructor
  · exact h.size
  · exact h.size_le
  · simpa [RingBuffer.advance, RingBuffer.store] using h.length
  · have hc := h.count
    simp only [RingBuffer.advance, RingBuffer.store, hlength]
    rw [Nat.mod_eq_of_lt (by omega), hc]
  · simp only [RingBuffer.advance, RingBuffer.store, hlength, h.head]
    by_cases hzero : r.ring.mSize = 0
    · simp [hzero]
    · have hpos : 0 < r.ring.mSize := Nat.pos_of_ne_zero hzero
      have hlt := Nat.mod_lt r.history.pushes.length hpos
      have hle := h.size_le
      simp only [if_neg hzero]
      rw [Nat.mod_eq_of_lt (by omega), succ_mod_eq _ _ hpos]
  · intro k hk hkept
    simp only [RingBuffer.advance, RingBuffer.store, hlength] at hk hkept ⊢
    have hpos : 0 < r.ring.mSize := by omega
    have hhead : r.ring.mHead = r.history.pushes.length % r.ring.mSize := by rw [h.head, if_neg (by omega)]
    by_cases hlast : k = r.history.pushes.length
    · have hin : r.ring.mHead < r.ring.mBuffer.length := by
        rw [hhead, h.length]
        exact Nat.mod_lt _ hpos
      rw [hlast, ← hhead, getElem?_set_self hin, getElem?_concat_length]
    · have hold : k < r.history.pushes.length := by omega
      have hother : r.ring.mHead ≠ k % r.ring.mSize := hhead ▸ mod_ne_mod hold (by omega)
      rw [getElem?_set_ne hother, getElem?_append_left hold]
      exact h.cell k hold (by omega)

/-! ## Reading -/

lemma Inv.length_kept (h : r.Inv limit) : r.history.kept.length = min r.ring.mSize r.history.pushes.length := by
  rw [PushHistory.length_kept, h.size]

lemma Inv.getValidSize (h : r.Inv limit) : r.ring.getValidSize = r.history.kept.length := by
  have hcount := h.count
  rw [RingBuffer.getValidSize, h.length_kept]
  split_ifs
  · omega
  · omega

lemma Inv.cell_kept (h : r.Inv limit) {j : ℕ} (hj : j < r.history.kept.length) :
    r.ring.mBuffer[(r.ring.oldest + j) % r.ring.mSize]? = r.history.kept[j]? := by
  rw [h.length_kept] at hj
  have hpos : 0 < r.ring.mSize := by omega
  have hcell : (r.ring.oldest + j) % r.ring.mSize
      = (r.history.pushes.length - r.ring.mSize + j) % r.ring.mSize := by
    rw [RingBuffer.oldest, h.head, h.count, if_neg (Nat.ne_of_gt hpos)]
    split_ifs with hfull
    · have hsplit : r.history.pushes.length + j
          = r.history.pushes.length - r.ring.mSize + j + r.ring.mSize := by omega
      rw [Nat.mod_add_mod, hsplit, Nat.add_mod_right]
    · have hzero : r.history.pushes.length - r.ring.mSize = 0 := by omega
      rw [hzero]
  rw [hcell, h.cell _ (by omega) (by omega), PushHistory.kept, getElem?_drop, h.size]

lemma Inv.oldest_lt (h : r.Inv limit) (hpos : 0 < r.ring.mSize) : r.ring.oldest < r.ring.mSize := by
  rw [RingBuffer.oldest, h.head, if_neg (Nat.ne_of_gt hpos)]
  split_ifs
  · exact Nat.mod_lt _ hpos
  · exact hpos

/-- **`getItem`**, where its sum fits in 32 bits. -/
lemma Inv.getItem_of_fits (h : r.Inv limit) {i : ℕ} (hi : i < r.history.kept.length)
    (hfits : r.ring.oldest + i < 2 ^ 32) : r.ring.getItem i = r.history.kept[i]? := by
  rw [← h.cell_kept hi, RingBuffer.getItem, Nat.mod_eq_of_lt hfits]
  rw [h.length_kept] at hi
  exact if_neg (by omega)

/-- **`getItem`**, where it does not: what is read is older by what the size lacks to 2³². -/
lemma Inv.getItem_of_wraps (h : r.Inv limit) (hlimit : limit < 2 ^ 32) {i : ℕ} (hi : i < r.history.kept.length)
    (hwraps : 2 ^ 32 ≤ r.ring.oldest + i) : r.ring.getItem i = r.history.kept[i + r.ring.mSize - 2 ^ 32]? := by
  have hle := h.size_le
  have hlength := h.length_kept
  have hpos : 0 < r.ring.mSize := by omega
  have hold := h.oldest_lt hpos
  have hmod : (r.ring.oldest + i) % 2 ^ 32 = r.ring.oldest + i - 2 ^ 32 := by omega
  have hsum : r.ring.oldest + (i + r.ring.mSize - 2 ^ 32) = r.ring.oldest + i - 2 ^ 32 + r.ring.mSize := by omega
  rw [← h.cell_kept (by omega), RingBuffer.getItem, if_neg (Nat.ne_of_gt hpos), hmod, hsum, Nat.add_mod_right]

lemma Inv.refines (h : r.Inv limit) (hlimit : limit ≤ 2 ^ 31) : r.Refines := by
  refine ⟨h.getValidSize, fun i hi => ?_⟩
  rw [h.getValidSize] at hi
  refine h.getItem_of_fits hi ?_
  rw [h.length_kept] at hi
  have hold := h.oldest_lt (by omega)
  have hle := h.size_le
  omega

/-! ## Histories -/

def start : RingRun α := ⟨⟨[], 0, 0, 0⟩, ⟨0, []⟩⟩

lemma inv_start (limit : ℕ) : (start : RingRun α).Inv limit :=
  ⟨rfl, Nat.zero_le _, rfl, rfl, rfl, fun k hk => absurd hk (Nat.not_lt_zero k)⟩

variable [Inhabited α]

def step (r : RingRun α) (act : RingAct α) : Option (RingRun α) :=
  match act with
  | .resize size => some ⟨r.ring.resize size, r.history.step act⟩
  | .push how => (r.ring.push how).map fun p => ⟨p.2, r.history.step act⟩

/-- What an operation does to the buffer: a resize, a push that succeeds, or one that fails. -/
lemma step_cases {act : RingAct α} (hr' : r.step act = some r') :
    (∃ size, act = .resize size ∧ r' = ⟨r.ring.resize size, r.history.step (.resize size)⟩)
      ∨ (∃ v, r' = ⟨(r.ring.store v).advance, { r.history with pushes := r.history.pushes ++ [v] }⟩)
      ∨ r' = r
      ∨ ∃ v, act = .push (.pusherFails (some v)) ∧ r' = ⟨r.ring.store v, r.history⟩ := by
  cases act with
  | resize size => exact .inl ⟨size, rfl, (Option.some.inj hr').symm⟩
  | push how =>
    obtain ⟨p, hp, rfl⟩ := map_eq_some_iff.mp hr'
    cases how with
    | plain v =>
      cases hp
      exact .inr (.inl ⟨v, rfl⟩)
    | pusher v =>
      obtain ⟨-, rfl⟩ := ite_some_none_eq_some.mp hp
      exact .inr (.inl ⟨v, rfl⟩)
    | pusherFails written =>
      cases written with
      | none =>
        cases hp
        exact .inr (.inr (.inl rfl))
      | some v =>
        obtain ⟨-, rfl⟩ := ite_some_none_eq_some.mp hp
        exact .inr (.inr (.inr ⟨v, rfl, rfl⟩))

lemma Inv.step (hlimit : limit < 2 ^ 32) (h : r.Inv limit) {act : RingAct α} (hlegal : Legal limit false act)
    (hcount : r.ring.mCount < 2 ^ 64 - 1) (hr' : r.step act = some r') : r'.Inv limit := by
  obtain ⟨size, rfl, rfl⟩ | ⟨v, rfl⟩ | rfl | ⟨v, rfl, rfl⟩ := step_cases hr'
  · simp only [RingBuffer.resize, PushHistory.step, ← h.size]
    split_ifs with hsize
    · exact ⟨rfl, hlegal.2, length_replicate, rfl, by simp, fun k hk => absurd hk (Nat.not_lt_zero k)⟩
    · exact h
  · exact h.push hlimit hcount v
  · exact h
  · exact absurd hlegal Bool.false_ne_true

lemma step_mCount_le (r : RingRun α) (act : RingAct α) (r' : RingRun α) (hr' : r.step act = some r') :
    r'.ring.mCount ≤ r.ring.mCount + 1 := by
  obtain ⟨size, -, rfl⟩ | ⟨v, rfl⟩ | rfl | ⟨v, -, rfl⟩ := step_cases hr'
  · simp only [RingBuffer.resize]
    split_ifs
    · exact Nat.zero_le _
    · exact Nat.le_succ _
  · exact Nat.mod_le _ _
  · exact Nat.le_succ _
  · exact Nat.le_succ _

/-- **The invariant over a history** of less than 2⁶⁴ operations, and what follows from it. -/
lemma along_of_inv (hlimit : limit < 2 ^ 32) {P : RingRun α → Prop} (hP : ∀ r, r.Inv limit → P r)
    {acts : List (RingAct α)} (hlength : acts.length < 2 ^ 64) (hlegal : ∀ act ∈ acts, Legal limit false act) :
    Along step P start acts := by
  have hcount : StepsMeet step (fun r _ => r.ring.mCount < 2 ^ 64 - 1) (start : RingRun α) acts := by
    refine stepsMeet_of_length step_mCount_le ?_
    simp only [start]
    omega
  have hmeet : StepsMeet step (fun r act => Legal limit false act ∧ r.ring.mCount < 2 ^ 64 - 1) start acts :=
    (stepsMeet_of_forall hlegal).and hcount
  exact along_of_stepsMeet (fun _ _ _ h hmeet hr' => h.step hlimit hmeet.1 hmeet.2 hr') hP (inv_start limit) hmeet

/-! ## What goes wrong -/

lemma run_plain (vs : List α) (r : RingRun α) :
    ∃ u, run step r (vs.map fun v => .push (.plain v)) = some u
      ∧ u.history = { r.history with pushes := r.history.pushes ++ vs } := by
  induction vs generalizing r with
  | nil => exact ⟨r, rfl, by simp⟩
  | cons v vs ih =>
    obtain ⟨u, hu, hhistory⟩ := ih ⟨(r.ring.store v).advance, { r.history with pushes := r.history.pushes ++ [v] }⟩
    refine ⟨u, run_cons_eq_some.mpr ⟨_, rfl, hu⟩, ?_⟩
    simpa using hhistory

/-- A buffer of `n` cells, `2 * n - 2` pushes of one element and one of another. -/
def wrapAround (n : ℕ) (a b : α) : List (RingAct α) :=
  .resize n :: (List.replicate (2 * n - 2) a ++ [b]).map fun v => .push (.plain v)

omit [Inhabited α] in
lemma wrapAround_legal {n : ℕ} (hn : 1 ≤ n) (failWrites : Bool) (a b : α) :
    ∀ act ∈ wrapAround n a b, Legal n failWrites act := by
  intro act hact
  rcases mem_cons.mp hact with rfl | hact
  · exact ⟨hn, Nat.le_refl n⟩
  · obtain ⟨v, -, rfl⟩ := mem_map.mp hact
    trivial

omit [Inhabited α] in
lemma length_wrapAround_lt {n : ℕ} (hn : n < 2 ^ 32) (a b : α) : (wrapAround n a b).length < 2 ^ 64 := by
  simp only [wrapAround, length_cons, length_map, length_append, length_replicate, length_nil]
  omega

lemma run_wrapAround {n : ℕ} (hn : 1 ≤ n) (hlimit : n < 2 ^ 32) (a b : α) :
    ∃ u, run step start (wrapAround n a b) = some u ∧ u.Inv n ∧ u.history.capacity = n
      ∧ u.history.pushes.length = 2 * n - 1 ∧ u.history.kept = List.replicate (n - 1) a ++ [b] := by
  obtain ⟨u, hu, hhistory⟩ := run_plain (List.replicate (2 * n - 2) a ++ [b])
    ⟨(start : RingRun α).ring.resize n, (start : RingRun α).history.step (.resize n)⟩
  have hrun : run step start (wrapAround n a b) = some u := run_cons_eq_some.mpr ⟨_, rfl, hu⟩
  have hinv : u.Inv n :=
    (along_of_inv hlimit (fun _ h => h) (length_wrapAround_lt hlimit a b) (wrapAround_legal hn false a b)).last hrun
  have hfresh : (start : RingRun α).history.step (.resize n) = ⟨n, []⟩ := by
    simp only [start, PushHistory.step]
    exact if_pos (by omega)
  have hhistory : u.history = ⟨n, List.replicate (2 * n - 2) a ++ [b]⟩ := by rw [hhistory, hfresh, nil_append]
  have hlength : (List.replicate (2 * n - 2) a ++ [b]).length = 2 * n - 1 := by
    rw [length_append, length_replicate, length_singleton]
    omega
  refine ⟨u, hrun, hinv, ?_, ?_, ?_⟩
  · rw [hhistory]
  · rw [hhistory]
    exact hlength
  · have hdrop : 2 * n - 1 - n ≤ (List.replicate (2 * n - 2) a).length := by
      rw [length_replicate]
      omega
    have hrest : 2 * n - 2 - (2 * n - 1 - n) = n - 1 := by omega
    rw [hhistory, PushHistory.kept, hlength, drop_append_of_le_length hdrop, drop_replicate, hrest]

/-- **The sum wraps around**: the newest element is asked for, and an older one is read. -/
lemma wrapAround_not_refines {n : ℕ} (hn : 2 ^ 31 < n) (hlimit : n < 2 ^ 32) {a b : α} (hab : a ≠ b) :
    ¬ Along step Refines start (wrapAround n a b) := by
  intro halong
  obtain ⟨u, hrun, hinv, hcapacity, hlength, hkept⟩ := run_wrapAround (by omega) hlimit a b
  obtain ⟨hvalid, hitems⟩ : u.Refines := halong.last hrun
  have hsize : u.ring.mSize = n := hinv.size.trans hcapacity
  have hkeptLength : u.history.kept.length = n := by
    rw [hinv.length_kept, hsize, hlength]
    omega
  have holdest : u.ring.oldest = n - 1 := by
    rw [RingBuffer.oldest, hinv.head, hinv.count, hlength, hsize, if_pos (by omega), if_neg (by omega)]
    have hsplit : 2 * n - 1 = n - 1 + n := by omega
    rw [hsplit, Nat.add_mod_right]
    exact Nat.mod_eq_of_lt (by omega)
  have hread := hinv.getItem_of_wraps hlimit (show n - 1 < u.history.kept.length by omega) (by omega)
  rw [hitems (n - 1) (by omega), hsize, hkept, getElem?_append_right (by rw [length_replicate]),
    getElem?_append_left (by rw [length_replicate]; omega), getElem?_replicate, if_pos (by omega),
    length_replicate, Nat.sub_self] at hread
  exact hab (Option.some.inj hread).symm

/-- A pusher writes the only cell and fails. -/
def failedWrite (a b : α) : List (RingAct α) := [.resize 1, .push (.plain a), .push (.pusherFails (some b))]

/-- **The oldest element is gone**, and nothing was pushed. -/
lemma failedWrite_not_refines {a b : α} (hab : a ≠ b) : ¬ Along step Refines start (failedWrite a b) := by
  intro halong
  obtain ⟨-, hitems⟩ := halong.last rfl
  have hitem : some b = some a := hitems 0 Nat.zero_lt_one
  exact hab (Option.some.inj hitem).symm

/-- **The ring buffer keeps the last pushes.**  Over all histories of less than 2⁶⁴ operations, with sizes from 1 up to
a limit and pushers that, where they fail, have written the cell or have not: the number of valid elements is the number
kept and each is read at its age, all along, iff the limit is at most 2³¹ and no pusher that fails has written. -/
theorem ring_refines_iff [Nontrivial α] (limit : ℕ) (hpos : 1 ≤ limit) (hlimit : limit < 2 ^ 32) (failWrites : Bool) :
    (∀ acts : List (RingAct α), acts.length < 2 ^ 64 → (∀ act ∈ acts, Legal limit failWrites act) →
        Along step Refines start acts)
      ↔ limit ≤ 2 ^ 31 ∧ failWrites = false := by
  obtain ⟨a, b, hab⟩ := exists_pair_ne α
  constructor
  · intro hall
    constructor
    · by_contra hbig
      exact wrapAround_not_refines (Nat.lt_of_not_le hbig) hlimit hab
        (hall _ (length_wrapAround_lt hlimit a b) (wrapAround_legal hpos failWrites a b))
    · by_contra hwrites
      have hlegal : ∀ act ∈ failedWrite a b, Legal limit failWrites act := by
        simpa [failedWrite, Legal, hpos] using hwrites
      exact failedWrite_not_refines hab (hall _ (by decide : 3 < 2 ^ 64) hlegal)
  · rintro ⟨hsmall, rfl⟩ acts hlength hlegal
    exact along_of_inv hlimit (fun _ h => h.refines hsmall) hlength hlegal

/-- Two cells, three pushes and a pusher that fails without writing. -/
theorem ring_refines_twoCells :
    Along step Refines (start : RingRun ℕ)
      [.resize 2, .push (.plain 5), .push (.pusher 6), .push (.pusherFails none), .push (.plain 7)] :=
  (ring_refines_iff 2 (by decide) (by decide) false).mpr ⟨by decide, rfl⟩ _ (by decide) (by decide)

/-- **The defects**: the sum wraps around in a buffer of 2³¹ + 1 cells, and a pusher that fails writes over the only
element of a buffer of one. -/
theorem ring_not_refined :
    (2 ^ 31 + 1 < 2 ^ 32 ∧ ¬ Along step Refines (start : RingRun ℕ) (wrapAround (2 ^ 31 + 1) 5 6))
      ∧ ¬ Along step Refines (start : RingRun ℕ) (failedWrite 5 6) :=
  ⟨⟨by decide, wrapAround_not_refines (by decide) (by decide) (by decide)⟩, failedWrite_not_refines (by decide)⟩

end RingRun

end Hal
