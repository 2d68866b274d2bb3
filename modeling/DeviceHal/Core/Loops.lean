import DeviceHal.Core.Bytes

/-!
# Loops over an index that fill an array

`for (i = 0; i < n; i++) body`, where the body changes a state and may leave an object.  A loop is reasoned
about by an invariant that depends on the round.

* `loop_ok` — if every round has a result and keeps the invariant, so does the loop.
* `exists_round_of_loop_ok` — a loop with a result had one in each round.
* `readAt`, `writeAt` — the accesses of one element.
* `fill` — the loop that writes one element a round; `fill_ok` says what is in the array afterwards.
-/

namespace Hal

open List hiding Vector

section Loop

variable {ε σ : Type} {body : ℕ → σ → Except ε σ}

def loop (body : ℕ → σ → Except ε σ) : ℕ → σ → Except ε σ
  | 0, s => .ok s
  | n + 1, s =>
    match loop body n s with
    | .ok s => body n s
    | .error e => .error e

variable {n : ℕ} {s : σ}

theorem loop_succ_of_ok {s' : σ} (h : loop body n s = .ok s') : loop body (n + 1) s = body n s' := by
  rw [loop, h]

theorem loop_succ_of_error {e : ε} (h : loop body n s = .error e) : loop body (n + 1) s = .error e := by
  rw [loop, h]

/-- **The invariant rule.** -/
theorem loop_ok (I : ℕ → σ → Prop) (hstart : I 0 s)
    (hround : ∀ i < n, ∀ t, I i t → ∃ t', body i t = .ok t' ∧ I (i + 1) t') : ∃ t, loop body n s = .ok t ∧ I n t := by
  induction n with
  | zero => exact ⟨s, rfl, hstart⟩
  | succ n ih =>
    obtain ⟨t, ht, hI⟩ := ih fun i hi => hround i (Nat.lt_succ_of_lt hi)
    obtain ⟨t', ht', hI'⟩ := hround n (Nat.lt_succ_self n) t hI
    exact ⟨t', (loop_succ_of_ok ht).trans ht', hI'⟩

/-- Every round of a loop that has a result has one. -/
theorem exists_round_of_loop_ok {i : ℕ} {t : σ} (h : loop body n s = .ok t) (hi : i < n) :
    ∃ u v, body i u = .ok v := by
  induction n generalizing t with
  | zero => exact absurd hi (Nat.not_lt_zero i)
  | succ n ih =>
    cases hn : loop body n s with
    | error e =>
      rw [loop_succ_of_error hn] at h
      cases h
    | ok u =>
      rw [loop_succ_of_ok hn] at h
      rcases Nat.lt_succ_iff_lt_or_eq.mp hi with hlt | rfl
      · exact ih hn hlt
      · exact ⟨u, t, h⟩

end Loop

/-! ## Elements -/

section Elements

variable {α : Type} {size : ℕ}

def readAt (xs : List α) (i : ℕ) : Except Fault α :=
  match xs[i]? with
  | some x => .ok x
  | none => .error (.load i 1 xs.length)

variable {i : ℕ} {x : α}

theorem readAt_of_getElem? {xs : List α} (h : xs[i]? = some x) : readAt xs i = .ok x := by
  rw [readAt, h]

def writeAt (a : Vector α size) (i : ℕ) (x : α) : Except Fault (Vector α size) :=
  if h : i < size then .ok (a.set i x h) else .error (.store i 1 size)

theorem writeAt_of_lt {a : Vector α size} (x : α) (h : i < size) : writeAt a i x = .ok (a.set i x h) := dif_pos h

/-- Writing right behind what was written already. -/
theorem toList_set_of_eq_append {a : Vector α size} (h : i < size) {xs ys : List α}
    (ha : a.toList = xs ++ ys.drop i) (hlen : xs.length = i) (hy : ys.length = size) (x : α) :
    (a.set i x h).toList = xs ++ [x] ++ ys.drop (i + 1) := by
  have hdrop : ys.drop i = ys[i] :: ys.drop (i + 1) := drop_eq_getElem_cons (by omega)
  rw [Vector.toList_set, ha, hdrop, set_append_right _ _ (Nat.le_of_eq hlen), hlen, Nat.sub_self,
    set_cons_zero, append_assoc, singleton_append]

/-- `for (i = 0; i < n; i++) a[i] = value(i)`. -/
def fill (value : ℕ → Except Fault α) (n : ℕ) (a : Vector α size) : Except Fault (Vector α size) :=
  loop (fun i a => value i >>= writeAt a i) n a

/-- The first of `xs`, and behind them what was there before. -/
def FilledTo (xs : List α) (a : Vector α size) (i : ℕ) (t : Vector α size) : Prop :=
  t.toList = xs.take i ++ a.toList.drop i

variable {value : ℕ → Except Fault α} {n : ℕ} {xs : List α} {a : Vector α size}

theorem filledTo_zero : FilledTo xs a 0 a := by simp [FilledTo]

variable {t : Vector α size}

theorem FilledTo.writeAt (ht : FilledTo xs a i t) (hi : i < size)
    (hx : xs[i]? = some x) : ∃ t', Hal.writeAt t i x = .ok t' ∧ FilledTo xs a (i + 1) t' := by
  obtain ⟨hlen, -⟩ := List.getElem?_eq_some_iff.mp hx
  refine ⟨t.set i x hi, writeAt_of_lt x hi, ?_⟩
  rw [FilledTo, toList_set_of_eq_append hi ht (length_take_of_le (Nat.le_of_lt hlen)) (by simp) x,
    take_add_one, hx, Option.toList_some]

/-- A round that writes nothing, where the value is there already. -/
theorem FilledTo.skip (ht : FilledTo xs a i t) (hx : xs[i]? = some x)
    (ha : a.toList[i]? = some x) : FilledTo xs a (i + 1) t := by
  obtain ⟨hlen, hget⟩ := List.getElem?_eq_some_iff.mp ha
  rw [FilledTo, ht, drop_eq_getElem_cons hlen, hget, take_add_one, hx, Option.toList_some, append_assoc,
    singleton_append]

theorem fill_round (hi : i < size) (hx : xs[i]? = some x) (hvalue : value i = .ok x) (ht : FilledTo xs a i t) :
    ∃ t', (value i >>= Hal.writeAt t i) = .ok t' ∧ FilledTo xs a (i + 1) t' := by
  rw [hvalue]
  exact ht.writeAt hi hx

theorem fill_ok (hn : n ≤ size) (hlen : n ≤ xs.length) (hvalue : ∀ i x, i < n → xs[i]? = some x → value i = .ok x) :
    ∃ t, fill value n a = .ok t ∧ FilledTo xs a n t := by
  refine loop_ok (FilledTo xs a) filledTo_zero ?_
  intro i hi t ht
  have hx : xs[i]? = some xs[i] := List.getElem?_eq_getElem (by omega)
  exact fill_round (by omega) hx (hvalue i _ hi hx) ht

theorem exists_value_of_fill_ok (h : fill value n a = .ok t) (hi : i < n) : ∃ x, value i = .ok x := by
  obtain ⟨u, v, hround⟩ := exists_round_of_loop_ok h hi
  obtain ⟨x, hx, -⟩ := bind_eq_ok.mp hround
  exact ⟨x, hx⟩

end Elements

end Hal
