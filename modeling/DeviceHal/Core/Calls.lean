import DeviceHal.Core.Machine

/-!
# Calls without a lock

Code that several threads run without a lock: a *call* is a sequence of accesses to the shared state, in which what
comes next may depend on what was there, and calls interleave access by access.

* `Accesses` — what a call has still to do, a monad with `read` and `write`; `exec` does it with nobody in between.
* `Part`, `Accesses.on` — code for a part of a state, on the whole of it.
* `Calls.step` — calls begin, and any call that is under way makes its next access.
* **`Calls.along_quiet`** — what every whole call preserves holds whenever no call is under way, in every run in which
  no call begins while another one is.
-/

namespace Hal

open List

universe u

/-- What a call has still to do before it returns. -/
inductive Accesses (σ : Type u) (β : Type) where
  | done (b : β)
  | access (f : σ → σ) (rest : σ → Accesses σ β)

variable {σ τ : Type u} {α : Type*} {β γ : Type}

namespace Accesses

def bind : Accesses σ β → (β → Accesses σ γ) → Accesses σ γ
  | .done b, k => k b
  | .access f rest, k => .access f fun s => (rest s).bind k

instance : Monad (Accesses σ) where
  pure := .done
  bind := bind

def read (f : σ → β) : Accesses σ β := .access id fun s => .done (f s)

def write (f : σ → σ) : Accesses σ Unit := .access f fun _ => .done ()

def isDone : Accesses σ β → Bool
  | .done _ => true
  | .access _ _ => false

/-- The call with nobody in between. -/
def exec : Accesses σ β → σ → β × σ
  | .done b, s => (b, s)
  | .access f rest, s => (rest s).exec (f s)

variable {s : σ}

@[simp] lemma exec_pure (b : β) : (pure b : Accesses σ β).exec s = (b, s) := (rfl)

@[simp] lemma exec_read (f : σ → β) : (read f).exec s = (f s, s) := (rfl)

@[simp] lemma exec_write (f : σ → σ) : (write f).exec s = ((), f s) := (rfl)

@[simp] lemma exec_bind (c : Accesses σ β) (k : β → Accesses σ γ) :
    (c >>= k).exec s = (k (c.exec s).1).exec (c.exec s).2 := by
  induction c generalizing s with
  | done b => rfl
  | access f rest ih => exact ih s

@[simp] lemma exec_ite (p : Prop) [Decidable p] (c c' : Accesses σ β) :
    (if p then c else c').exec s = if p then c.exec s else c'.exec s := apply_ite (exec · s) p c c'

lemma eq_done_of_isDone {c : Accesses σ Unit} (h : c.isDone = true) : c = .done () := by
  cases c with
  | done => rfl
  | access f rest => exact absurd h Bool.false_ne_true

end Accesses

/-- A part of a state, which may not be there. -/
structure Part (τ σ : Type*) where
  get : τ → Option σ
  set : τ → σ → τ
  get_set : ∀ t s, (get t).isSome = true → get (set t s) = some s
  set_set : ∀ t s s', set (set t s) s' = set t s'
  set_get : ∀ t s, get t = some s → set t s = t

/-- The same on a part of a larger state; it ends when the part is gone. -/
def Accesses.on (p : Part τ σ) : Accesses σ β → Accesses τ (Option β)
  | .done b => .done (some b)
  | .access f rest =>
    .access (fun t => match p.get t with | none => t | some s => p.set t (f s))
      fun t => match p.get t with | none => .done none | some s => (rest s).on p

lemma Accesses.exec_on {p : Part τ σ} (c : Accesses σ β) {t : τ} {s : σ} (h : p.get t = some s) :
    (c.on p).exec t = (some (c.exec s).1, p.set t (c.exec s).2) := by
  induction c generalizing t s with
  | done b => exact congrArg (Prod.mk (some b)) (p.set_get t s h).symm
  | access f rest ih =>
    simp only [on, exec, h]
    rw [ih s (p.get_set t (f s) (by rw [h]; rfl)), p.set_set]

/-- The shared state, and the calls that have begun. -/
structure Calls (σ : Type u) where
  shared : σ
  begun : List (Accesses σ Unit)

inductive CallAct (α : Type*) where
  | call (a : α)
  | access (i : ℕ)

/-- Call `a`, the `i`-th to begin, and its `n` accesses with nobody in between. -/
def callAlone (i n : ℕ) (a : α) : List (CallAct α) := .call a :: List.replicate n (.access i)

namespace Calls

def start (s : σ) : Calls σ := ⟨s, []⟩

/-- `call` says what there is of a call at its beginning. -/
def step (call : σ → α → Option (σ × Accesses σ Unit)) (s : Calls σ) : CallAct α → Option (Calls σ)
  | .call a => (call s.shared a).map fun c => ⟨c.1, s.begun ++ [c.2]⟩
  | .access i =>
    match s.begun[i]? with
    | some (.access f rest) => some ⟨f s.shared, s.begun.set i (rest s.shared)⟩
    | _ => none

/-- A call as one step. -/
def whole (call : σ → α → Option (σ × Accesses σ Unit)) (s : σ) (a : α) : Option σ :=
  (call s a).map fun c => (c.2.exec c.1).2

/-- No call is under way. -/
def Quiet (s : Calls σ) : Prop := ∀ c ∈ s.begun, c.isDone = true

instance (s : Calls σ) : Decidable s.Quiet := inferInstanceAs (Decidable (∀ c ∈ s.begun, c.isDone = true))

/-- A call begins while no other one is under way, and meets a condition. -/
def Alone (C : σ → α → Prop) (s : Calls σ) : CallAct α → Prop
  | .call a => s.Quiet ∧ C s.shared a
  | .access _ => True

instance (C : σ → α → Prop) [∀ s a, Decidable (C s a)] (s : Calls σ) : DecidablePred (Alone C s)
  | .call _ => inferInstanceAs (Decidable (_ ∧ _))
  | .access _ => isTrue trivial

variable {call : σ → α → Option (σ × Accesses σ Unit)} {C : σ → α → Prop} {I P : σ → Prop} {s s' : Calls σ}

/-- One call is under way at most, and `I` will hold at its end. -/
def Leads (I : σ → Prop) (s : Calls σ) : Prop :=
  s.Quiet ∧ I s.shared ∨ ∃ (i : ℕ) (c : Accesses σ Unit), s.begun[i]? = some c ∧
    (∀ (j : ℕ) (c' : Accesses σ Unit), s.begun[j]? = some c' → j ≠ i → c'.isDone = true) ∧ I (c.exec s.shared).2

lemma Leads.of_quiet (h : Leads I s) (hquiet : s.Quiet) : I s.shared := by
  rcases h with ⟨-, hI⟩ | ⟨i, c, hc, -, hI⟩
  · exact hI
  · rwa [Accesses.eq_done_of_isDone (hquiet c (mem_of_getElem? hc))] at hI

lemma Leads.begin {a : α} (h : Leads I s) (hquiet : s.Quiet)
    (hwhole : ∀ u, I s.shared → whole call s.shared a = some u → I u) (hs' : step call s (.call a) = some s') :
    Leads I s' := by
  obtain ⟨c, hcall, rfl⟩ := Option.map_eq_some_iff.mp hs'
  refine .inr ⟨s.begun.length, c.2, by simp, fun j c' hj hne => ?_, ?_⟩
  · have hlt : j < s.begun.length := by
      have hlen := (List.getElem?_eq_some_iff.mp hj).1
      rw [length_append, length_singleton] at hlen
      omega
    rw [List.getElem?_append_left hlt] at hj
    exact hquiet c' (mem_of_getElem? hj)
  · refine hwhole _ (h.of_quiet hquiet) ?_
    rw [whole, hcall, Option.map_some]

lemma Leads.goOn {i : ℕ} (h : Leads I s) (hs' : step call s (.access i) = some s') : Leads I s' := by
  simp only [step] at hs'
  split at hs'
  · next f rest hi =>
    cases hs'
    rcases h with ⟨hquiet, -⟩ | ⟨k, c, hk, hothers, hI⟩
    · exact absurd (hquiet _ (mem_of_getElem? hi)) Bool.false_ne_true
    · have hik : i = k := by
        by_contra hne
        exact Bool.false_ne_true (hothers i _ hi hne)
      subst hik
      cases hi.symm.trans hk
      refine .inr ⟨i, rest s.shared, ?_, fun j c' hj hne => hothers j c' ?_ hne, hI⟩
      · rw [List.getElem?_set_self (List.getElem?_eq_some_iff.mp hi).1]
      · rwa [List.getElem?_set_ne (Ne.symm hne)] at hj
  · cases hs'

/-- **What whole calls preserve** holds whenever no call is under way. -/
theorem along_quiet (hwhole : ∀ s a s', I s → C s a → whole call s a = some s' → I s') (hP : ∀ s, I s → P s)
    {s : σ} (hs : I s) {acts : List (CallAct α)} (halone : StepsMeet (step call) (Alone C) (start s) acts) :
    Along (step call) (fun s => s.Quiet → P s.shared) (start s) acts := by
  refine along_of_stepsMeet (I := Leads I) (fun s act s' h halone hs' => ?_)
    (fun s h hquiet => hP _ (h.of_quiet hquiet)) (.inl ⟨fun c hc => absurd hc not_mem_nil, hs⟩) halone
  cases act with
  | call a => exact h.begin halone.1 (fun u hI => hwhole _ a u hI halone.2) hs'
  | access i => exact h.goOn hs'

end Calls

end Hal
