import Mathlib.Data.Fintype.Defs

/-!
# Reader-writer locks

A lock knows how often each thread reads, and who writes.  `Hold` is what one thread has of it, and
`Hold.after` which operations are right for a thread that has that: a thread whose operations are right
always knows what it holds, whatever the others do (`hold_exec`, `hold_exec_of_ne`).
-/

namespace Hal

open Option Function

inductive RwOp where
  | rdlock
  | wrlock
  | unlock
deriving DecidableEq

/-- What a thread has of a lock; `read 0` is nothing. -/
inductive Hold where
  | read (n : ℕ)
  | write
deriving DecidableEq

/-- What it has after an operation, if the operation is right: a reader does not ask to write, and only what
is held is unlocked. -/
def Hold.after : Hold → RwOp → Option Hold
  | .read n, .rdlock => some (.read (n + 1))
  | .read 0, .wrlock => some .write
  | .read (n + 1), .unlock => some (.read n)
  | .write, .unlock => some (.read 0)
  | _, _ => none

structure RwLock (τ : Type) where
  readers : τ → ℕ
  writer : Option τ

namespace RwLock

variable {τ : Type}

def free : RwLock τ := ⟨fun _ => 0, none⟩

def Excl (l : RwLock τ) : Prop := ∀ t, l.writer = some t → ∀ u, l.readers u = 0

lemma excl_free : (free : RwLock τ).Excl := fun _ h => absurd h (by simp [free])

def Holds (l : RwLock τ) (t : τ) : Prop := l.writer = some t ∨ 0 < l.readers t

/-- The thread waits for nobody: it writes, or reads, or the lock is free. -/
def Turn (l : RwLock τ) (t : τ) : Prop :=
  l.writer = some t ∨ l.writer = none ∧ (0 < l.readers t ∨ ∀ u, l.readers u = 0)

/-- Of those who hold the lock one does not wait; if there are none, nobody does. -/
lemma exists_turn (l : RwLock τ) : (∃ t, l.Holds t ∧ l.Turn t) ∨ ∀ t, l.Turn t := by
  cases hwriter : l.writer with
  | some t => exact .inl ⟨t, .inl hwriter, .inl hwriter⟩
  | none =>
    by_cases hreads : ∃ t, 0 < l.readers t
    · rcases hreads with ⟨t, ht⟩
      exact .inl ⟨t, .inr ht, .inr ⟨hwriter, .inl ht⟩⟩
    · have hnone : ∀ u, l.readers u = 0 := by simpa using hreads
      exact .inr fun t => .inr ⟨hwriter, .inr hnone⟩

variable [DecidableEq τ]

instance (l : RwLock τ) (t : τ) : Decidable (l.Holds t) := inferInstanceAs (Decidable (_ ∨ _))

def hold (l : RwLock τ) (t : τ) : Hold := if l.writer = some t then .write else .read (l.readers t)

variable {l : RwLock τ} {t : τ}

lemma hold_eq_write : l.hold t = .write ↔ l.writer = some t := by
  simp [hold]

lemma hold_eq_read {n : ℕ} : l.hold t = .read n ↔ l.writer ≠ some t ∧ l.readers t = n := by
  simp only [hold]
  split_ifs with h <;> simp [h]

lemma not_holds_iff : ¬ l.Holds t ↔ l.hold t = .read 0 := by
  simp [Holds, hold_eq_read]

variable [Fintype τ]

/-- An operation of a thread; `none` while it has to wait.  To unlock what is not held does nothing here. -/
def exec (l : RwLock τ) (t : τ) : RwOp → Option (RwLock τ)
  | .rdlock =>
    if l.writer = none then
      some { l with readers := update l.readers t (l.readers t + 1) }
    else none
  | .wrlock =>
    if l.writer = none ∧ ∀ u, l.readers u = 0 then some { l with writer := some t } else none
  | .unlock =>
    if l.writer = some t then some { l with writer := none }
    else some { l with readers := update l.readers t (l.readers t - 1) }

/-! ## What an operation does to what is held -/

variable {l' : RwLock τ} {op : RwOp}

/-- **A right operation gives the thread what it should have.** -/
lemma hold_exec {h : Hold} (hexcl : l.Excl)
    (hafter : (l.hold t).after op = some h) (hl : l.exec t op = some l') : l'.hold t = h := by
  cases op with
  | rdlock =>
    obtain ⟨hfree, rfl⟩ := ite_some_none_eq_some.mp hl
    rw [hold_eq_read.mpr ⟨by simp [hfree], rfl⟩] at hafter
    rw [← Option.some.inj hafter]
    exact hold_eq_read.mpr ⟨by simp [hfree], update_self ..⟩
  | wrlock =>
    obtain ⟨hfree, rfl⟩ := ite_some_none_eq_some.mp hl
    rw [hold_eq_read.mpr ⟨by simp [hfree.1], hfree.2 t⟩] at hafter
    rw [← Option.some.inj hafter]
    exact hold_eq_write.mpr rfl
  | unlock =>
    simp only [exec] at hl
    split_ifs at hl with hwriter
    · rw [hold_eq_write.mpr hwriter] at hafter
      rw [← Option.some.inj hl, ← Option.some.inj hafter]
      exact hold_eq_read.mpr ⟨by simp, hexcl t hwriter t⟩
    · rw [hold_eq_read.mpr ⟨hwriter, rfl⟩] at hafter
      rw [← Option.some.inj hl]
      cases hn : l.readers t with
      | zero => simp [hn, Hold.after] at hafter
      | succ n =>
        rw [hn] at hafter
        rw [← Option.some.inj hafter]
        exact hold_eq_read.mpr ⟨hwriter, by simp⟩

/-- **The others have what they had.** -/
lemma hold_exec_of_ne {u : τ} (hl : l.exec t op = some l') (hne : u ≠ t) : l'.hold u = l.hold u := by
  cases op with
  | rdlock =>
    obtain ⟨-, rfl⟩ := ite_some_none_eq_some.mp hl
    simp [hold, update_of_ne hne]
  | wrlock =>
    obtain ⟨hfree, rfl⟩ := ite_some_none_eq_some.mp hl
    simp [hold, hfree.1, hne.symm]
  | unlock =>
    simp only [exec] at hl
    split_ifs at hl with hwriter
    · rw [← Option.some.inj hl]
      simp [hold, hwriter, hne.symm]
    · rw [← Option.some.inj hl]
      simp [hold, update_of_ne hne]

lemma Excl.exec (hexcl : l.Excl) (hl : l.exec t op = some l') : l'.Excl := by
  cases op with
  | rdlock =>
    obtain ⟨hfree, rfl⟩ := ite_some_none_eq_some.mp hl
    exact fun u hu => absurd hu (by simp [hfree])
  | wrlock =>
    obtain ⟨hfree, rfl⟩ := ite_some_none_eq_some.mp hl
    exact fun _ _ => hfree.2
  | unlock =>
    simp only [RwLock.exec] at hl
    split_ifs at hl with hwriter
    · rw [← Option.some.inj hl]
      exact fun u hu => absurd hu (by simp)
    · rw [← Option.some.inj hl]
      intro u hu v
      have hzero := hexcl u hu
      simp only [update_apply]
      split_ifs <;> simp [hzero]

lemma readers_exec_of_ne {u : τ} (hl : l.exec t op = some l') (hne : u ≠ t) : l'.readers u = l.readers u := by
  cases op with
  | rdlock | wrlock | unlock =>
    simp only [exec] at hl
    split_ifs at hl
    all_goals
      cases hl
      simp [hne]

/-! ## Who has to wait -/

lemma Turn.exec_ne_none {h : Hold} (hturn : l.Turn t)
    (hafter : (l.hold t).after op = some h) : l.exec t op ≠ none := by
  cases op with
  | unlock =>
    simp only [exec]
    split_ifs <;> simp
  | rdlock =>
    rcases hturn with hwriter | ⟨hfree, -⟩
    · rw [hold_eq_write.mpr hwriter] at hafter
      exact absurd hafter (by simp [Hold.after])
    · simp [exec, hfree]
  | wrlock =>
    rcases hturn with hwriter | ⟨hfree, hreads | hnone⟩
    · rw [hold_eq_write.mpr hwriter] at hafter
      exact absurd hafter (by simp [Hold.after])
    · rw [hold_eq_read.mpr ⟨by simp [hfree], (Nat.sub_add_cancel hreads).symm⟩] at hafter
      exact absurd hafter (by simp [Hold.after])
    · simp [exec, hfree, hnone]

lemma exec_wrlock_ne_none (h : ∀ u, ¬ l.Holds u) (t : τ) : l.exec t .wrlock ≠ none := by
  rcases l.exists_turn with ⟨u, hu, -⟩ | hturn
  · exact absurd hu (h u)
  · refine (hturn t).exec_ne_none (h := .write) ?_
    rw [not_holds_iff.mp (h t)]
    rfl

lemma exec_wrlock_of_reader (h : 0 < l.readers t) (u : τ) : l.exec u .wrlock = none := by
  exact if_neg fun hfree => absurd (hfree.2 t) h.ne'

end RwLock

end Hal
