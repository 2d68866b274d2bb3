import Mathlib.Logic.Function.Iterate
import Mathlib.Tactic.Common

/-!
# Loops with a test

`while (test) body`.  Such a loop may go on for ever, so it is run with a bound on its rounds, and has no result if the
bound is too small; `EndsIn` says that some bound is large enough.

* `endsIn_iff_iterate` — the loop ends where its test first fails, and nowhere else.
* **`exists_endsIn`** — a measure that goes down wherever an invariant holds makes it end, with the invariant.
* `not_endsIn_of_forall` — a test that never fails makes it go on for ever.
-/

namespace Hal

variable {σ : Type*}

section While

variable (test : σ → Prop) [DecidablePred test] (body : σ → σ)

def whileLoop : ℕ → σ → Option σ
  | 0, _ => none
  | fuel + 1, s => if test s then whileLoop fuel (body s) else some s

def EndsIn (s t : σ) : Prop := ∃ fuel, whileLoop test body fuel s = some t

variable {test body} {s t : σ}

lemma endsIn_of_not (h : ¬ test s) : EndsIn test body s s := ⟨1, if_neg h⟩

lemma endsIn_of_body (h : test s) (hbody : EndsIn test body (body s) t) : EndsIn test body s t := by
  obtain ⟨fuel, hfuel⟩ := hbody
  exact ⟨fuel + 1, (if_pos h).trans hfuel⟩

/-- **The loop ends where its test first fails.** -/
theorem endsIn_iff_iterate : EndsIn test body s t ↔ ∃ n, body^[n] s = t ∧ ¬ test t ∧ ∀ m < n, test (body^[m] s) := by
  constructor
  · rintro ⟨fuel, hfuel⟩
    induction fuel generalizing s with
    | zero => exact absurd hfuel.symm (Option.some_ne_none t)
    | succ fuel ih =>
      rw [whileLoop] at hfuel
      split_ifs at hfuel with htest
      · obtain ⟨n, hn, hstop, hrounds⟩ := ih hfuel
        refine ⟨n + 1, hn, hstop, fun m hm => ?_⟩
        cases m with
        | zero => exact htest
        | succ m => exact hrounds m (Nat.lt_of_succ_lt_succ hm)
      · cases hfuel
        exact ⟨0, rfl, htest, fun m hm => absurd hm (Nat.not_lt_zero m)⟩
  · rintro ⟨n, rfl, hstop, hrounds⟩
    induction n generalizing s with
    | zero => exact endsIn_of_not hstop
    | succ n ih =>
      refine endsIn_of_body (hrounds 0 (Nat.succ_pos n)) (ih hstop fun m hm => ?_)
      exact hrounds (m + 1) (Nat.succ_lt_succ hm)

lemma EndsIn.unique {u : σ} (ht : EndsIn test body s t) (hu : EndsIn test body s u) : t = u := by
  obtain ⟨n, rfl, hn, hbefore⟩ := endsIn_iff_iterate.mp ht
  obtain ⟨m, rfl, hm, hbefore'⟩ := endsIn_iff_iterate.mp hu
  rcases Nat.lt_trichotomy n m with hlt | rfl | hlt
  · exact absurd (hbefore' n hlt) hn
  · rfl
  · exact absurd (hbefore m hlt) hm

lemma not_endsIn_of_forall (h : ∀ n, test (body^[n] s)) : ¬ EndsIn test body s t := by
  intro hends
  obtain ⟨n, rfl, hstop, -⟩ := endsIn_iff_iterate.mp hends
  exact hstop (h n)

/-- **The rule for loops that end.** -/
theorem exists_endsIn (I : σ → Prop) (measure : σ → ℕ)
    (hround : ∀ s, I s → test s → I (body s) ∧ measure (body s) < measure s) (hs : I s) :
    ∃ t, EndsIn test body s t ∧ I t ∧ ¬ test t := by
  induction hn : measure s using Nat.strongRecOn generalizing s with
  | ind n ih =>
    by_cases htest : test s
    · obtain ⟨hI, hlt⟩ := hround s hs htest
      obtain ⟨t, hends, ht⟩ := ih (measure (body s)) (hn ▸ hlt) hI rfl
      exact ⟨t, endsIn_of_body htest hends, ht⟩
    · exact ⟨s, endsIn_of_not htest, hs, htest⟩

end While

end Hal
