import Mathlib.Data.List.Count
import Mathlib.Data.List.Infix
import Mathlib.Data.List.Nodup

/-!
# Ledgers

A program takes resources from the system and gives them back.  The system may hand out the same name again after it was
given back, so that what is right is said of the whole sequence of transfers.

* `Holds` — the resource was taken more often than it was given back.
* `Sane` — no resource is ever given back that is not held, or taken that is.
* `Balanced` — and in the end every one was given back: each time it was taken it was given back exactly once.

The rules `Sane.acquire`, `Sane.release`, `holds_acquire` and `holds_release` say what one more transfer does,
`Sane.acquireAll` and `Sane.releaseAll` what several do.

A program that keeps track of what it has taken `Owns` it; what is held beyond that is lost, and `Covers` says that
there is no such thing.  The three rules `Owns.keep`, `Owns.lose` and `Owns.giveBack` are for resources that are taken
and kept track of, taken and not, and given back.
-/

namespace Hal

open List

inductive Transfer (ι : Type*) where
  | acquire (r : ι)
  | release (r : ι)
deriving DecidableEq

namespace Ledger

variable {ι : Type*} [DecidableEq ι]

def acquired (log : List (Transfer ι)) (r : ι) : ℕ := log.count (.acquire r)

def released (log : List (Transfer ι)) (r : ι) : ℕ := log.count (.release r)

def Holds (log : List (Transfer ι)) (r : ι) : Prop := released log r < acquired log r

instance (log : List (Transfer ι)) (r : ι) : Decidable (Holds log r) :=
  inferInstanceAs (Decidable (released log r < acquired log r))

/-- At every time each resource is held once or not at all. -/
def Sane (log : List (Transfer ι)) : Prop :=
  ∀ r p, p <+: log → released p r ≤ acquired p r ∧ acquired p r ≤ released p r + 1

structure Balanced (log : List (Transfer ι)) : Prop where
  sane : Sane log
  settled : ∀ r, acquired log r = released log r

@[simp] lemma acquired_acquire (log : List (Transfer ι)) (r q : ι) :
    acquired (log ++ [.acquire r]) q = acquired log q + if q = r then 1 else 0 := by
  rw [acquired, count_append, count_singleton]
  simp [acquired, @eq_comm ι r q]

@[simp] lemma acquired_release (log : List (Transfer ι)) (r q : ι) :
    acquired (log ++ [.release r]) q = acquired log q := by
  simp [acquired, count_append]

@[simp] lemma released_acquire (log : List (Transfer ι)) (r q : ι) :
    released (log ++ [.acquire r]) q = released log q := by
  simp [released, count_append]

@[simp] lemma released_release (log : List (Transfer ι)) (r q : ι) :
    released (log ++ [.release r]) q = released log q + if q = r then 1 else 0 := by
  rw [released, count_append, count_singleton]
  simp [released, @eq_comm ι r q]

lemma not_holds_nil (r : ι) : ¬ Holds [] r := Nat.lt_irrefl 0

lemma sane_nil : Sane ([] : List (Transfer ι)) := by
  intro r p hp
  rw [prefix_nil.mp hp]
  exact ⟨Nat.le_refl 0, Nat.zero_le 1⟩

variable {log : List (Transfer ι)}

lemma Sane.concat {t : Transfer ι} (h : Sane log) (ht : ∀ r, released (log ++ [t]) r ≤ acquired (log ++ [t]) r
      ∧ acquired (log ++ [t]) r ≤ released (log ++ [t]) r + 1) : Sane (log ++ [t]) := by
  intro r p hp
  rcases prefix_concat_iff.mp hp with rfl | hp
  · exact ht r
  · exact h r p hp

lemma Sane.acquire {r : ι} (h : Sane log) (hfree : ¬ Holds log r) : Sane (log ++ [.acquire r]) := by
  refine h.concat fun q => ?_
  have hq := h q log (prefix_refl log)
  simp only [acquired_acquire, released_acquire]
  split_ifs with hqr
  · subst hqr
    have hle : acquired log q ≤ released log q := Nat.not_lt.mp hfree
    omega
  · omega

lemma Sane.release {r : ι} (h : Sane log) (hheld : Holds log r) : Sane (log ++ [.release r]) := by
  refine h.concat fun q => ?_
  have hq := h q log (prefix_refl log)
  simp only [acquired_release, released_release]
  split_ifs with hqr
  · subst hqr
    have hlt : released log q < acquired log q := hheld
    omega
  · omega

lemma holds_acquire (h : Sane log) (r q : ι) : Holds (log ++ [.acquire r]) q ↔ q = r ∨ Holds log q := by
  have hq := h q log (prefix_refl log)
  simp only [Holds, acquired_acquire, released_acquire]
  split_ifs with hqr
  · simp only [hqr, true_or, iff_true]
    rw [hqr] at hq
    omega
  · simp [hqr]

lemma holds_release (h : Sane log) (r q : ι) : Holds (log ++ [.release r]) q ↔ q ≠ r ∧ Holds log q := by
  have hq := h q log (prefix_refl log)
  simp only [Holds, acquired_release, released_release]
  split_ifs with hqr
  · simp only [hqr, ne_eq, not_true_eq_false, false_and, iff_false]
    rw [hqr] at hq
    omega
  · simp [hqr]

lemma Sane.acquireAll {rs : List ι} (h : Sane log) (hnodup : rs.Nodup) (hfree : ∀ r ∈ rs, ¬ Holds log r) :
    Sane (log ++ rs.map .acquire) ∧ ∀ q, Holds (log ++ rs.map .acquire) q ↔ q ∈ rs ∨ Holds log q := by
  induction rs generalizing log with
  | nil => simpa using h
  | cons r rs ih =>
    obtain ⟨hr, hnodup⟩ := nodup_cons.mp hnodup
    have hrest : ∀ q ∈ rs, ¬ Holds (log ++ [.acquire r]) q := by
      intro q hq hheld
      rcases (holds_acquire h r q).mp hheld with rfl | hheld
      · exact hr hq
      · exact hfree q (mem_cons_of_mem r hq) hheld
    have happend : log ++ (r :: rs).map .acquire = log ++ [.acquire r] ++ rs.map .acquire := by simp
    obtain ⟨hsane, hholds⟩ := ih (h.acquire (hfree r mem_cons_self)) hnodup hrest
    rw [happend]
    refine ⟨hsane, fun q => ?_⟩
    rw [hholds, holds_acquire h, mem_cons]
    tauto

lemma Sane.releaseAll {rs : List ι} (h : Sane log) (hnodup : rs.Nodup) (hheld : ∀ r ∈ rs, Holds log r) :
    Sane (log ++ rs.map .release) ∧ ∀ q, Holds (log ++ rs.map .release) q ↔ q ∉ rs ∧ Holds log q := by
  induction rs generalizing log with
  | nil => simpa using h
  | cons r rs ih =>
    obtain ⟨hr, hnodup⟩ := nodup_cons.mp hnodup
    have hrest : ∀ q ∈ rs, Holds (log ++ [.release r]) q := by
      intro q hq
      exact (holds_release h r q).mpr ⟨fun heq => hr (heq ▸ hq), hheld q (mem_cons_of_mem r hq)⟩
    have happend : log ++ (r :: rs).map .release = log ++ [.release r] ++ rs.map .release := by simp
    obtain ⟨hsane, hholds⟩ := ih (h.release (hheld r mem_cons_self)) hnodup hrest
    rw [happend]
    refine ⟨hsane, fun q => ?_⟩
    rw [hholds, holds_release h, mem_cons]
    tauto

lemma balanced_iff : Balanced log ↔ Sane log ∧ ∀ r, ¬ Holds log r := by
  constructor
  · intro h
    exact ⟨h.sane, fun r => Nat.not_lt.mpr (Nat.le_of_eq (h.settled r))⟩
  · rintro ⟨hsane, hfree⟩
    refine ⟨hsane, fun r => ?_⟩
    exact Nat.le_antisymm (Nat.not_lt.mp (hfree r)) (hsane r log (prefix_refl log)).1

/-! ## Owners -/

/-- What is kept track of is held, each resource once. -/
structure Owns (log : List (Transfer ι)) (owned : List ι) : Prop where
  sane : Sane log
  nodup : owned.Nodup
  held : ∀ r ∈ owned, Holds log r

/-- Nothing is held but what is kept track of. -/
def Covers (log : List (Transfer ι)) (owned : List ι) : Prop := ∀ r, Holds log r → r ∈ owned

variable {log : List (Transfer ι)} {owned rs rest : List ι}

lemma owns_nil : Owns ([] : List (Transfer ι)) [] := ⟨sane_nil, nodup_nil, fun _ hr => absurd hr not_mem_nil⟩

lemma covers_nil : Covers ([] : List (Transfer ι)) [] := fun r hr => absurd hr (not_holds_nil r)

lemma Owns.keep (h : Owns log owned) (hnodup : rs.Nodup) (hfree : ∀ r ∈ rs, ¬ Holds log r) :
    Owns (log ++ rs.map .acquire) (rs ++ owned)
      ∧ (Covers (log ++ rs.map .acquire) (rs ++ owned) ↔ Covers log owned) := by
  obtain ⟨hsane, hholds⟩ := h.sane.acquireAll hnodup hfree
  refine ⟨⟨hsane, ?_, ?_⟩, ?_⟩
  · refine nodup_append'.mpr ⟨hnodup, h.nodup, ?_⟩
    intro r hr hr'
    exact hfree r hr (h.held r hr')
  · intro r hr
    exact (hholds r).mpr ((mem_append.mp hr).imp_right (h.held r))
  · simp only [Covers, hholds, mem_append]
    constructor
    · intro hall r hr
      exact (hall r (.inr hr)).resolve_left fun hnew => hfree r hnew hr
    · rintro hall r (hr | hr)
      · exact .inl hr
      · exact .inr (hall r hr)

lemma Owns.lose (h : Owns log owned) (hnodup : rs.Nodup) (hfree : ∀ r ∈ rs, ¬ Holds log r) :
    Owns (log ++ rs.map .acquire) owned
      ∧ (Covers (log ++ rs.map .acquire) owned ↔ Covers log owned ∧ rs = []) := by
  obtain ⟨hsane, hholds⟩ := h.sane.acquireAll hnodup hfree
  refine ⟨⟨hsane, h.nodup, ?_⟩, ?_⟩
  · intro r hr
    exact (hholds r).mpr (.inr (h.held r hr))
  · simp only [Covers, hholds, eq_nil_iff_forall_not_mem]
    constructor
    · intro hall
      refine ⟨fun r hr => hall r (.inr hr), fun r hr => ?_⟩
      exact hfree r hr (h.held r (hall r (.inl hr)))
    · rintro ⟨hall, hempty⟩ r (hr | hr)
      · exact absurd hr (hempty r)
      · exact hall r hr

lemma Owns.giveBack (h : Owns log owned) (hperm : owned.Perm (rs ++ rest)) :
    Owns (log ++ rs.map .release) rest ∧ (Covers (log ++ rs.map .release) rest ↔ Covers log owned) := by
  obtain ⟨hnodup, hrest, hdisjoint⟩ := nodup_append'.mp (hperm.nodup_iff.mp h.nodup)
  have hmem : ∀ r, r ∈ owned ↔ r ∈ rs ∨ r ∈ rest := fun r => hperm.mem_iff.trans mem_append
  obtain ⟨hsane, hholds⟩ := h.sane.releaseAll hnodup fun r hr => h.held r ((hmem r).mpr (.inl hr))
  refine ⟨⟨hsane, hrest, ?_⟩, ?_⟩
  · intro r hr
    exact (hholds r).mpr ⟨fun hback => hdisjoint hback hr, h.held r ((hmem r).mpr (.inr hr))⟩
  · simp only [Covers, hholds, hmem]
    constructor
    · intro hall r hr
      by_cases hback : r ∈ rs
      · exact .inl hback
      · exact .inr (hall r ⟨hback, hr⟩)
    · rintro hall r ⟨hother, hr⟩
      exact (hall r hr).resolve_left hother

end Ledger

end Hal
