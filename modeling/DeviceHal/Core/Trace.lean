import DeviceHal.Core.Machine

/-!
# Executions that go on for ever

A `Trace` of a machine is an infinite execution.  What has to happen along it is stated with `LeadsTo`: whenever the
first holds, the second holds later or at once.

* `Trace.invariant`, `Trace.lasts` — what every step of the execution preserves.
* **`Trace.ensures`** — if the first lasts until the second, and an action that brings the second about comes sooner
  or later, the first leads to the second.
* `LeadsTo.trans` — putting such facts together.
-/

namespace Hal

variable {σ α : Type*}

/-- An infinite execution from an initial state. -/
structure Trace (step : σ → α → Option σ) (init : σ) where
  state : ℕ → σ
  act : ℕ → α
  state_zero : state 0 = init
  step_eq : ∀ n, step (state n) (act n) = some (state (n + 1))

namespace Trace

variable {step : σ → α → Option σ} {init : σ} {t : Trace step init} {P Q R : σ → Prop}

/-- Every step meets a condition in the state it is taken from. -/
def Meets (t : Trace step init) (C : σ → α → Prop) : Prop := ∀ n, C (t.state n) (t.act n)

def Recurs (t : Trace step init) (A : α → Prop) : Prop := ∀ n, ∃ m, n ≤ m ∧ A (t.act m)

/-- Whenever `P` holds, `Q` holds then or later. -/
def LeadsTo (t : Trace step init) (P Q : σ → Prop) : Prop := ∀ n, P (t.state n) → ∃ m, n ≤ m ∧ Q (t.state m)

/-- What every step preserves lasts for ever. -/
theorem lasts (hstep : ∀ n, P (t.state n) → P (t.state (n + 1))) {n : ℕ} (hP : P (t.state n)) :
    ∀ k, P (t.state (n + k)) := by
  intro k
  induction k with
  | zero => exact hP
  | succ k ih => exact hstep (n + k) ih

theorem invariant (hinit : P init) (hstep : ∀ n, P (t.state n) → P (t.state (n + 1))) : ∀ n, P (t.state n) := by
  intro n
  have hfirst : P (t.state 0) := by
    rw [t.state_zero]
    exact hinit
  have hlasts := lasts hstep hfirst n
  rwa [Nat.zero_add] at hlasts

lemma LeadsTo.trans (hPQ : t.LeadsTo P Q) (hQR : t.LeadsTo Q R) : t.LeadsTo P R := by
  intro n hP
  obtain ⟨m, hnm, hQ⟩ := hPQ n hP
  obtain ⟨k, hmk, hR⟩ := hQR m hQ
  exact ⟨k, Nat.le_trans hnm hmk, hR⟩

/-- What lasts until `Q` is there after any number of steps, or `Q` has been. -/
lemma lasts_or (hstay : ∀ n, P (t.state n) → P (t.state (n + 1)) ∨ Q (t.state (n + 1))) {n : ℕ} (hP : P (t.state n))
    (k : ℕ) : P (t.state (n + k)) ∨ ∃ m, n ≤ m ∧ Q (t.state m) := by
  induction k with
  | zero => exact .inl hP
  | succ k ih =>
    rcases ih with hlast | hdone
    · rcases hstay (n + k) hlast with hnext | hQ
      · exact .inl hnext
      · exact .inr ⟨n + k + 1, by omega, hQ⟩
    · exact .inr hdone

/-- **Progress**: `P` lasts until `Q`, and some action that turns it into `Q` comes sooner or later. -/
theorem ensures {A : α → Prop} (hstay : ∀ n, P (t.state n) → P (t.state (n + 1)) ∨ Q (t.state (n + 1)))
    (hhelp : ∀ n, P (t.state n) → A (t.act n) → Q (t.state (n + 1)))
    (hfair : ∀ n, P (t.state n) → ∃ m, n ≤ m ∧ A (t.act m)) : t.LeadsTo P Q := by
  intro n hP
  obtain ⟨m, hnm, hA⟩ := hfair n hP
  obtain ⟨k, rfl⟩ := Nat.exists_eq_add_of_le hnm
  rcases lasts_or hstay hP k with hlast | hdone
  · exact ⟨n + k + 1, by omega, hhelp (n + k) hlast hA⟩
  · exact hdone

end Trace

end Hal
