import Mathlib.Data.List.Nodup

/-!
# The most recent entries of a history

A history of entries with keys, the newest first.  `latest` keeps of every key its newest entry, in the
order of the history; a table of `n` places that always shows the first `n` of these is kept up by
`touch` and `take`, one step for each new entry.

* `latest_sublist`, `nodup_latest`, `find?_latest` — what `latest` is: in the order of the history, every
  key once, with its newest entry.
* **`take_touch`** — the step needs no more than the `n` entries it shows: what an entry pushes out never
  has to come back without being touched itself.
-/

namespace Hal

open List

namespace Recency

variable {α κ : Type*} [DecidableEq κ] (key : α → κ)

/-- A new entry goes to the front, and an older one of the same key goes. -/
def touch (x : α) (l : List α) : List α := x :: l.filter fun y => key y ≠ key x

/-- Of every key its newest entry, the newest first. -/
def latest : List α → List α
  | [] => []
  | x :: older => touch key x (latest older)

variable {key}

lemma latest_sublist : ∀ history : List α, (latest key history).Sublist history
  | [] => List.Sublist.refl []
  | x :: older => (filter_sublist.trans (latest_sublist older)).cons_cons x

lemma nodup_touch {l : List α} (h : (l.map key).Nodup) (x : α) : ((touch key x l).map key).Nodup := by
  rw [touch, map_cons, nodup_cons]
  constructor
  · intro hmem
    obtain ⟨y, hy, hkey⟩ := mem_map.mp hmem
    have hne : key y ≠ key x := of_decide_eq_true (mem_filter.mp hy).2
    exact hne hkey
  · exact h.sublist (filter_sublist.map key)

lemma nodup_latest : ∀ history : List α, ((latest key history).map key).Nodup
  | [] => nodup_nil
  | x :: older => nodup_touch (nodup_latest older) x

lemma find?_latest (k : κ) : ∀ history : List α,
    (latest key history).find? (fun y => key y = k) = history.find? fun y => key y = k
  | [] => rfl
  | x :: older => by
    rw [latest, touch, List.find?_cons, List.find?_cons]
    by_cases hk : key x = k
    · simp [hk]
    · -- the entries dropped are of another key
      have hfilter : ((latest key older).filter fun y => key y ≠ key x).find? (fun y => key y = k)
          = (latest key older).find? fun y => key y = k := by
        rw [find?_filter]
        congr 1
        funext y
        by_cases hy : key y = k
        · have hne : ¬ k = key x := fun h => hk h.symm
          simp [hy, hne]
        · simp [hy]
      rw [hfilter, find?_latest k older]

variable {l : List α} {k : κ}

lemma filter_eq_self_of_notMem (hk : k ∉ l.map key) : (l.filter fun y => key y ≠ k) = l := by
  refine filter_eq_self.mpr fun y hy => decide_eq_true fun hyk => hk ?_
  rw [← hyk]
  exact mem_map_of_mem hy

/-- A filter that drops at most one entry needs one more than it is to show. -/
lemma take_filter (h : (l.map key).Nodup) (n : ℕ) :
    (l.filter fun y => key y ≠ k).take n = ((l.take (n + 1)).filter fun y => key y ≠ k).take n := by
  induction l generalizing n with
  | nil => simp
  | cons a l ih =>
    rw [map_cons, nodup_cons] at h
    by_cases ha : key a = k
    · -- this is the one: the rest stays
      have hrest : ∀ l' : List α, l'.Sublist l → l'.filter (fun y => key y ≠ k) = l' :=
        fun l' hl' => filter_eq_self_of_notMem fun hmem => h.1 (ha ▸ (hl'.map key).subset hmem)
      rw [take_succ_cons, filter_cons_of_neg (by simp [ha]), filter_cons_of_neg (by simp [ha]),
        hrest l (List.Sublist.refl l), hrest (l.take n) (take_sublist n l), take_take, Nat.min_self]
    · cases n with
      | zero => simp
      | succ n =>
        rw [take_succ_cons, filter_cons_of_pos (by simp [ha]), filter_cons_of_pos (by simp [ha]), take_succ_cons,
          take_succ_cons, ih h.2 n]

lemma filter_eq_take_append_drop (h : (l.map key).Nodup) (hk : k ∈ l.map key) :
    (l.filter fun y => key y ≠ k)
      = l.take (l.findIdx fun y => key y = k) ++ l.drop ((l.findIdx fun y => key y = k) + 1) := by
  induction l with
  | nil => simp at hk
  | cons a l ih =>
    rw [map_cons, nodup_cons] at h
    by_cases ha : key a = k
    · have hfind : (a :: l).findIdx (fun y => key y = k) = 0 := by simp [findIdx_cons, ha]
      rw [hfind, filter_cons_of_neg (by simp [ha]), filter_eq_self_of_notMem (ha ▸ h.1)]
      rfl
    · have hk' : k ∈ l.map key := by
        rw [map_cons, mem_cons] at hk
        exact hk.resolve_left fun h => ha h.symm
      have hfind : (a :: l).findIdx (fun y => key y = k) = (l.findIdx fun y => key y = k) + 1 := by
        simp [findIdx_cons, ha]
      rw [hfind, filter_cons_of_pos (by simp [ha]), ih h.2 hk']
      rfl

/-- **The first `n` after an entry** follow from the first `n` before it. -/
lemma take_touch (h : (l.map key).Nodup) (x : α) (n : ℕ) :
    (touch key x l).take n = (touch key x (l.take n)).take n := by
  cases n with
  | zero => simp
  | succ n =>
    rw [touch, touch, take_succ_cons, take_succ_cons, take_filter h n]

end Recency

end Hal
