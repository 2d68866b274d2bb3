import Mathlib.Data.List.Basic
import Mathlib.Data.Option.Basic

/-!
# Machines: runs, invariants, refinement

Every component of the device is modelled as a *machine*: a state type, a type of actions, and a
partial step function `σ → α → Option σ` whose `none` says that the action is not enabled.  An
interleaving of threads is then nothing but a list of actions, and a reachable state is one that
`run` returns.

This file is the part that knows nothing of the device.

* `run` — the state a list of actions leads to, and `run_invariant`, the induction that every
  safety result goes through.
* `StepsMeet` — every step of a run meets a condition on its own pre-state, and `Along` — a
  property holds in every state the run visits.  `along_of_stepsMeet` and `stepsMeet_of_along`
  are the two halves of `along_iff_stepsMeet`: the property holds all along the run **iff** no step
  breaks the condition.  `run_iff_stepsMeet` is for faults that stay, which the last state shows.
* `Simulation` — a forward simulation, in which one concrete step is matched by a list of
  abstract ones, and `Simulation.run`, which extends it to whole runs; `run_of_simulation` does so
  for steps that meet a condition.
-/

namespace Hal

variable {σ α τ β : Type*}

/-! ## Runs -/

/-- The state reached by performing the actions in order; `none` as soon as one is not enabled. -/
def run (step : σ → α → Option σ) : σ → List α → Option σ
  | s, [] => some s
  | s, a :: as => (step s a).bind fun s' => run step s' as

@[simp] lemma run_nil (step : σ → α → Option σ) (s : σ) : run step s [] = some s := rfl

variable {as : List α} {step : σ → α → Option σ} {I P : σ → Prop} {C : σ → α → Prop} {s u : σ}

lemma run_cons_eq_some {a : α} :
    run step s (a :: as) = some u ↔ ∃ s', step s a = some s' ∧ run step s' as = some u := by
  simp only [run, Option.bind_eq_some_iff]

lemma run_append {bs : List α} :
    run step s (as ++ bs) = some u ↔ ∃ m, run step s as = some m ∧ run step m bs = some u := by
  induction as generalizing s with
  | nil => simp
  | cons a as ih =>
    simp only [List.cons_append, run_cons_eq_some, ih]
    constructor
    · rintro ⟨s', hs, m, hm, hu⟩
      exact ⟨m, ⟨s', hs, hm⟩, hu⟩
    · rintro ⟨m, ⟨s', hs, hm⟩, hu⟩
      exact ⟨s', hs, m, hm, hu⟩

/-- **The invariant rule.**  What every enabled step preserves, every run preserves. -/
theorem run_invariant (hstep : ∀ s a s', I s → step s a = some s' → I s') (hs : I s)
    (hu : run step s as = some u) : I u := by
  induction as generalizing s with
  | nil =>
    simp only [run_nil, Option.some.injEq] at hu
    exact hu ▸ hs
  | cons a as ih =>
    obtain ⟨s', hs', hu'⟩ := run_cons_eq_some.mp hu
    exact ih (hstep s a s' hs hs') hu'

/-! ## Conditions on the steps of a run -/

/-- Every step of the run meets the condition `C` in the state it is taken from. -/
def StepsMeet (step : σ → α → Option σ) (C : σ → α → Prop) : σ → List α → Prop
  | _, [] => True
  | s, a :: as => C s a ∧ ∀ s' ∈ step s a, StepsMeet step C s' as

lemma stepsMeet_cons {s' : σ} {a : α} (hs : step s a = some s') (hC : C s a) (h : StepsMeet step C s' as) :
    StepsMeet step C s (a :: as) := by
  refine ⟨hC, fun s'' hs'' => ?_⟩
  have heq : s'' = s' := Option.some.inj (hs''.symm.trans hs)
  exact heq ▸ h

instance StepsMeet.decidable {step : σ → α → Option σ} {C : σ → α → Prop}
    [∀ s a, Decidable (C s a)] : ∀ s as, Decidable (StepsMeet step C s as)
  | _, [] => isTrue trivial
  | s, a :: as =>
    have : ∀ s', Decidable (StepsMeet step C s' as) := fun s' => StepsMeet.decidable s' as
    inferInstanceAs (Decidable (C s a ∧ ∀ s' ∈ step s a, StepsMeet step C s' as))

lemma stepsMeet_of_forall {C : α → Prop} (h : ∀ a ∈ as, C a) : StepsMeet step (fun _ a => C a) s as := by
  induction as generalizing s with
  | nil => trivial
  | cons a as ih => exact ⟨h a List.mem_cons_self, fun s' _ => ih fun b hb => h b (List.mem_cons_of_mem a hb)⟩

variable {D : σ → α → Prop}

lemma StepsMeet.and (hC : StepsMeet step C s as) (hD : StepsMeet step D s as) :
    StepsMeet step (fun s a => C s a ∧ D s a) s as := by
  induction as generalizing s with
  | nil => trivial
  | cons a as ih => exact ⟨⟨hC.1, hD.1⟩, fun s' hs' => ih (hC.2 s' hs') (hD.2 s' hs')⟩

/-- A measure that a step raises by one at most stays below what the number of steps allows. -/
lemma stepsMeet_of_length {μ : σ → ℕ} {n : ℕ} (hμ : ∀ s a s', step s a = some s' → μ s' ≤ μ s + 1)
    (hs : μ s + as.length ≤ n) : StepsMeet step (fun s _ => μ s < n) s as := by
  induction as generalizing s with
  | nil => trivial
  | cons a as ih =>
    rw [List.length_cons] at hs
    refine ⟨by omega, fun s' hs' => ih ?_⟩
    have hle := hμ s a s' hs'
    omega

/-- A condition that implies another wherever an invariant holds, and preserves it, implies it of the steps of a
run. -/
theorem stepsMeet_imp (hstep : ∀ s a s', I s → C s a → step s a = some s' → I s') (himp : ∀ s a, I s → C s a → D s a)
    (hs : I s) (hC : StepsMeet step C s as) : StepsMeet step D s as := by
  induction as generalizing s with
  | nil => trivial
  | cons a as ih => exact ⟨himp s a hs hC.1, fun s' hs' => ih (hstep s a s' hs hC.1 hs') (hC.2 s' hs')⟩

/-- Two conditions that say the same wherever an invariant holds, of which the second preserves it, say
the same of the steps of a run. -/
theorem stepsMeet_iff (hstep : ∀ s a s', I s → D s a → step s a = some s' → I s')
    (hiff : ∀ s a, I s → (C s a ↔ D s a)) (hs : I s) : StepsMeet step C s as ↔ StepsMeet step D s as := by
  constructor
  · exact stepsMeet_imp (fun s a s' hI hC => hstep s a s' hI ((hiff s a hI).mp hC)) (fun s a hI => (hiff s a hI).mp) hs
  · exact stepsMeet_imp hstep (fun s a hI => (hiff s a hI).mpr) hs

/-- A machine in which every action is possible, wherever an invariant holds, has every run. -/
lemma run_eq_some_of_invariant (htotal : ∀ s a, I s → ∃ s', step s a = some s' ∧ I s') (as : List α)
    (hs : I s) : ∃ u, run step s as = some u := by
  induction as generalizing s with
  | nil => exact ⟨s, rfl⟩
  | cons a as ih =>
    obtain ⟨s', hs', hI⟩ := htotal s a hs
    obtain ⟨u, hu⟩ := ih hI
    exact ⟨u, run_cons_eq_some.mpr ⟨s', hs', hu⟩⟩

lemma run_eq_some_of_total (htotal : ∀ s a, ∃ s', step s a = some s')
    (as : List α) (s : σ) : ∃ u, run step s as = some u :=
  run_eq_some_of_invariant (I := fun _ => True)
    (fun s a _ => (htotal s a).imp fun _ hs' => ⟨hs', trivial⟩) as trivial

/-- The property `P` holds in every state the run visits, the first one included. -/
def Along (step : σ → α → Option σ) (P : σ → Prop) : σ → List α → Prop
  | s, [] => P s
  | s, a :: as => P s ∧ ∀ s' ∈ step s a, Along step P s' as

/-- An invariant that steps meeting `C` preserve, and that implies `P`, gives `P` all along. -/
theorem along_of_stepsMeet
    (hstep : ∀ s a s', I s → C s a → step s a = some s' → I s') (hP : ∀ s, I s → P s) (hs : I s)
    (hC : StepsMeet step C s as) : Along step P s as := by
  induction as generalizing s with
  | nil => exact hP s hs
  | cons a as ih => exact ⟨hP s hs, fun s' hs' => ih (hstep s a s' hs hC.1 hs') (hC.2 s' hs')⟩

lemma Along.head (h : Along step P s as) : P s := by
  cases as with
  | nil => exact h
  | cons a as => exact h.1

lemma Along.last (h : Along step P s as) (hu : run step s as = some u) : P u := by
  induction as generalizing s with
  | nil => exact Option.some.inj hu ▸ h
  | cons a as ih =>
    obtain ⟨s', hs', hu'⟩ := run_cons_eq_some.mp hu
    exact ih (h.2 s' hs') hu'

/-- The converse half: if a step that breaks `C` always leads to a state without `P`, then a run
along which `P` holds never breaks `C`. -/
theorem stepsMeet_of_along (hstep : ∀ s a s', I s → C s a → step s a = some s' → I s')
    (hbad : ∀ s a s', I s → ¬ C s a → step s a = some s' → ¬ P s') (hs : I s)
    (hu : run step s as = some u) (hP : Along step P s as) : StepsMeet step C s as := by
  induction as generalizing s with
  | nil => trivial
  | cons a as ih =>
    obtain ⟨s', hs', hu'⟩ := run_cons_eq_some.mp hu
    have hP' : Along step P s' as := hP.2 s' hs'
    have hC : C s a := by
      by_contra hC
      exact hbad s a s' hs hC hs' hP'.head
    refine ⟨hC, fun s'' hs'' => ?_⟩
    have heq : s'' = s' := Option.some.inj (hs''.symm.trans hs')
    subst heq
    exact ih (hstep s a s'' hs hC hs') hu' hP'

/-- **Both halves.**  Steps that meet `C` keep the invariant, which implies `P`, and a step that breaks `C`
leads to a state without `P`. -/
theorem along_iff_stepsMeet (hstep : ∀ s a s', I s → C s a → step s a = some s' → I s') (hP : ∀ s, I s → P s)
    (hbad : ∀ s a s', I s → ¬ C s a → step s a = some s' → ¬ P s') (hs : I s)
    (hu : run step s as = some u) : Along step P s as ↔ StepsMeet step C s as := by
  constructor
  · exact stepsMeet_of_along hstep hbad hs hu
  · exact along_of_stepsMeet hstep hP hs

/-- **Faults that stay.**  If a step leads to a state with `P` just if it comes from one and meets `C`, then the state a
run ends in tells whether all its steps met `C`. -/
theorem run_iff_stepsMeet (hstep : ∀ s a s', I s → step s a = some s' → I s')
    (hP : ∀ s a s', I s → step s a = some s' → (P s' ↔ P s ∧ C s a)) (hs : I s)
    (hu : run step s as = some u) : P u ↔ P s ∧ StepsMeet step C s as := by
  induction as generalizing s with
  | nil =>
    simp only [run_nil, Option.some.injEq] at hu
    simp [StepsMeet, hu]
  | cons a as ih =>
    obtain ⟨s', hs', hu'⟩ := run_cons_eq_some.mp hu
    rw [ih (hstep s a s' hs hs') hu', hP s a s' hs hs', and_assoc]
    simp [StepsMeet, hs']

/-! ## Refinement -/

/-- What an observer sees of a run: the labels of its steps, concatenated. -/
def trace (step : σ → α → Option σ) (label : σ → α → List β) : σ → List α → List β
  | _, [] => []
  | s, a :: as => label s a ++ ((step s a).elim [] fun s' => trace step label s' as)

/-- A forward simulation: related states stay related when a concrete step is matched by the
abstract run over its labels. -/
def Simulation (step : σ → α → Option σ) (label : σ → α → List β) (astep : τ → β → Option τ)
    (R : σ → τ → Prop) : Prop :=
  ∀ s a s' t, R s t → step s a = some s' → ∃ t', run astep t (label s a) = some t' ∧ R s' t'

/-- **A simulation extends from one step to a whole run**: the concrete machine's trace is a run of the abstract
machine.  It is enough that the steps that meet a condition are matched, if those of the run do. -/
theorem run_of_simulation {label : σ → α → List β} {astep : τ → β → Option τ} {R : σ → τ → Prop}
    (hsim : ∀ s a s' t, R s t → C s a → step s a = some s' → ∃ t', run astep t (label s a) = some t' ∧ R s' t')
    {t : τ} (hR : R s t) (hC : StepsMeet step C s as) (hu : run step s as = some u) :
    ∃ t', run astep t (trace step label s as) = some t' ∧ R u t' := by
  induction as generalizing s t with
  | nil =>
    simp only [run_nil, Option.some.injEq] at hu
    exact ⟨t, rfl, hu ▸ hR⟩
  | cons a as ih =>
    obtain ⟨s', hs', hu'⟩ := run_cons_eq_some.mp hu
    obtain ⟨m, hm, hRm⟩ := hsim s a s' t hR hC.1 hs'
    obtain ⟨t', ht', hRt'⟩ := ih hRm (hC.2 s' hs') hu'
    refine ⟨t', ?_, hRt'⟩
    simp only [trace, hs', Option.elim_some]
    exact run_append.mpr ⟨m, hm, ht'⟩

/-- The same where every step is matched. -/
theorem Simulation.run {label : σ → α → List β} {astep : τ → β → Option τ} {R : σ → τ → Prop}
    (hsim : Simulation step label astep R) {t : τ} (hR : R s t) (hu : Hal.run step s as = some u) :
    ∃ t', Hal.run astep t (trace step label s as) = some t' ∧ R u t' := by
  have hmeets : StepsMeet step (fun _ _ => True) s as := stepsMeet_of_forall fun _ _ => trivial
  exact run_of_simulation (fun s a s' t hR _ hs' => hsim s a s' t hR hs') hR hmeets hu

end Hal
