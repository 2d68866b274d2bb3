import Mathlib.Data.List.Nodup

/-!
# A table of queues

One queue for each index, of which one is changed at a time.  What is then in which queue is said for all
queues together, so that a proof about the table does not have to tell the index that changes from the others.

* `mem_update_insert_iff` — an entry is added to one queue, at whichever end.
* `mem_update_erase_iff` — an entry that is in one queue only is taken out.
* `mem_iff_update_tail` — the first entry of one queue goes.
* `update_eq_some_iff` — the same for a table of blocks that are there or not.
-/

namespace Hal

open Function

variable {ι α : Type*} [DecidableEq ι] {queue : ι → List α} {i j : ι} {a b : α} {l : List α}

lemma mem_update_iff : b ∈ update queue i l j ↔ (j = i ∧ b ∈ l) ∨ (j ≠ i ∧ b ∈ queue j) := by
  by_cases hj : j = i
  · subst hj
    simp
  · simp [hj]

/-- No queue has an entry twice, if the one that is put in its place has none. -/
lemma nodup_update (hqueue : ∀ j, (queue j).Nodup) (hl : l.Nodup) (j : ι) : (update queue i l j).Nodup :=
  (Function.forall_update_iff queue fun _ l => l.Nodup).mpr ⟨hl, fun j _ => hqueue j⟩ j

lemma mem_update_insert_iff (hl : ∀ b, b ∈ l ↔ b = a ∨ b ∈ queue i) :
    b ∈ update queue i l j ↔ (j = i ∧ b = a) ∨ b ∈ queue j := by
  rw [mem_update_iff, hl]
  by_cases hj : j = i
  · subst hj
    simp
  · simp [hj]

lemma mem_update_cons_iff : b ∈ update queue i (a :: queue i) j ↔ (j = i ∧ b = a) ∨ b ∈ queue j :=
  mem_update_insert_iff fun _ => List.mem_cons

lemma mem_update_append_iff : b ∈ update queue i (queue i ++ [a]) j ↔ (j = i ∧ b = a) ∨ b ∈ queue j :=
  mem_update_insert_iff fun c => by rw [List.mem_append, List.mem_singleton, or_comm]

lemma mem_update_erase_iff [DecidableEq α] (hnodup : (queue i).Nodup) (hone : ∀ j, a ∈ queue j → j = i) :
    b ∈ update queue i ((queue i).erase a) j ↔ b ≠ a ∧ b ∈ queue j := by
  rw [mem_update_iff, hnodup.mem_erase_iff]
  constructor
  · rintro (⟨rfl, hb⟩ | ⟨hj, hb⟩)
    · exact hb
    · refine ⟨?_, hb⟩
      rintro rfl
      exact hj (hone j hb)
  · rintro ⟨hne, hb⟩
    by_cases hj : j = i
    · subst hj
      exact .inl ⟨rfl, hne, hb⟩
    · exact .inr ⟨hj, hb⟩

lemma mem_iff_update_tail (hhead : queue i = a :: l) : b ∈ queue j ↔ (j = i ∧ b = a) ∨ b ∈ update queue i l j := by
  have hback : queue = update (update queue i l) i (a :: update queue i l i) := by
    rw [update_self, update_idem, ← hhead, update_eq_self]
  nth_rewrite 1 [hback]
  exact mem_update_cons_iff

lemma update_eq_some_iff {table : ι → Option α} {o : Option α} :
    update table i o j = some b ↔ (j = i ∧ o = some b) ∨ (j ≠ i ∧ table j = some b) := by
  by_cases hj : j = i
  · subst hj
    simp
  · simp [hj]

end Hal
