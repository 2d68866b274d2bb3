import Mathlib.Order.Lattice
import Mathlib.Data.List.Nodup
import Mathlib.Data.List.Pairwise

/-!
# Sorted vectors

A vector of pairs, kept in the order of the keys, as code sees it that holds on to positions: the place of a key is the
number of smaller keys (`rank`), so that another key that comes or goes moves it.

* **`getElem?_eq_some_iff`** — a pair is at a position iff it is in the vector and the position is the rank of its key.
* `mem_add`, `mem_removeItem`, `mem_setAt` — what is in the vector after an operation.
* `rank_add`, `rank_removeItem`, `rank_setAt` — where it is then.
-/

namespace Hal

open List

@[ext] structure SortedVector (κ ν : Type*) [LinearOrder κ] where
  entries : List (κ × ν)
  sorted : (entries.map Prod.fst).Pairwise (· < ·)

namespace SortedVector

lemma map_fst_modify {κ ν : Type*} (entries : List (κ × ν)) (i : ℕ) (a : ν) :
    (entries.modify i fun e => (e.1, a)).map Prod.fst = entries.map Prod.fst := by
  refine ext_getElem? fun j => ?_
  rw [getElem?_map, getElem?_map, getElem?_modify]
  cases entries[j]? with
  | none => rfl
  | some e =>
    split_ifs
    · rfl
    · rfl

variable {κ ν : Type*} [LinearOrder κ] {v : SortedVector κ ν} {k k' : κ} {a : ν} {e : κ × ν} {i : ℕ}

def empty : SortedVector κ ν := ⟨[], List.Pairwise.nil⟩

def keys (v : SortedVector κ ν) : List κ := v.entries.map Prod.fst

def rank (v : SortedVector κ ν) (k : κ) : ℕ := v.keys.countP fun k' => k' < k

def indexOf (v : SortedVector κ ν) (k : κ) : Option ℕ := v.entries.findIdx? fun e => e.1 = k

/-- Puts a value under a key, in the place of what was there. -/
def add (v : SortedVector κ ν) (k : κ) (a : ν) : SortedVector κ ν where
  entries := (v.entries.filter fun e => e.1 < k) ++ (k, a) :: v.entries.filter fun e => k < e.1
  sorted := by
    have hsorted := pairwise_map.mp v.sorted
    refine pairwise_map.mpr (pairwise_append.mpr
      ⟨hsorted.filter _, pairwise_cons.mpr ⟨?_, hsorted.filter _⟩, ?_⟩)
    · intro e he
      exact of_decide_eq_true (mem_filter.mp he).2
    · intro e he e' he'
      have hlt : e.1 < k := of_decide_eq_true (mem_filter.mp he).2
      rcases mem_cons.mp he' with rfl | he'
      · exact hlt
      · exact lt_trans hlt (of_decide_eq_true (mem_filter.mp he').2)

def removeItem (v : SortedVector κ ν) (k : κ) : SortedVector κ ν where
  entries := v.entries.filter fun e => e.1 ≠ k
  sorted := v.sorted.sublist (filter_sublist.map Prod.fst)

/-- Writes the value at a position, if there is one. -/
def setAt (v : SortedVector κ ν) (i : ℕ) (a : ν) : SortedVector κ ν where
  entries := v.entries.modify i fun e => (e.1, a)
  sorted := by
    rw [map_fst_modify]
    exact v.sorted

/-! ## Positions -/

lemma mem_keys : k ∈ v.keys ↔ ∃ a, (k, a) ∈ v.entries := by
  simp [keys]

lemma keys_nodup (v : SortedVector κ ν) : v.keys.Nodup := v.sorted.imp ne_of_lt

lemma eq_of_mem {b : ν} (ha : (k, a) ∈ v.entries) (hb : (k, b) ∈ v.entries) : a = b :=
  congrArg Prod.snd (inj_on_of_nodup_map v.keys_nodup ha hb rfl)

/-- **Where a pair is.** -/
theorem getElem?_eq_some_iff : v.entries[i]? = some e ↔ e ∈ v.entries ∧ i = v.rank e.1 := by
  obtain ⟨entries, hsorted⟩ := v
  show entries[i]? = some e ↔ e ∈ entries ∧ i = (entries.map Prod.fst).countP fun k' => k' < e.1
  induction entries generalizing i with
  | nil => simp
  | cons x entries ih =>
    rw [map_cons, pairwise_cons] at hsorted
    have hlt : ∀ e ∈ entries, x.1 < e.1 := fun e he => hsorted.1 e.1 (mem_map_of_mem he)
    -- the first pair has rank 0, and every other one has it below
    have hfirst : ((x :: entries).map Prod.fst).countP (fun k' => k' < x.1) = 0 := by
      refine countP_eq_zero.mpr fun k' hk' => ?_
      rcases mem_cons.mp hk' with rfl | hk'
      · simp
      · simpa using le_of_lt (hsorted.1 k' hk')
    have hother : e ∈ entries → ((x :: entries).map Prod.fst).countP (fun k' => k' < e.1)
        = (entries.map Prod.fst).countP (fun k' => k' < e.1) + 1 :=
      fun he => countP_cons_of_pos (by simpa using hlt e he)
    cases i with
    | zero =>
      rw [getElem?_cons_zero, Option.some.injEq, mem_cons]
      constructor
      · rintro rfl
        exact ⟨Or.inl rfl, hfirst.symm⟩
      · rintro ⟨rfl | he, hrank⟩
        · rfl
        · rw [hother he] at hrank
          omega
    | succ i =>
      rw [getElem?_cons_succ, ih hsorted.2, mem_cons]
      constructor
      · rintro ⟨he, rfl⟩
        exact ⟨Or.inr he, (hother he).symm⟩
      · rintro ⟨rfl | he, hrank⟩
        · rw [hfirst] at hrank
          omega
        · rw [hother he] at hrank
          exact ⟨he, by omega⟩

lemma indexOf_eq_some_iff : v.indexOf k = some i ↔ k ∈ v.keys ∧ i = v.rank k := by
  rw [mem_keys]
  constructor
  · intro h
    obtain ⟨hi, hkey, -⟩ := List.findIdx?_eq_some_iff_getElem.mp h
    have hkey : v.entries[i].1 = k := of_decide_eq_true hkey
    obtain ⟨hmem, hrank⟩ := getElem?_eq_some_iff.mp (getElem?_eq_getElem hi)
    rw [hkey] at hrank
    refine ⟨⟨v.entries[i].2, ?_⟩, hrank⟩
    rw [← hkey]
    exact hmem
  · rintro ⟨⟨a, hmem⟩, rfl⟩
    cases hindex : v.indexOf k with
    | none => simpa using List.findIdx?_eq_none_iff.mp hindex (k, a) hmem
    | some j =>
      obtain ⟨hj, hkey, -⟩ := List.findIdx?_eq_some_iff_getElem.mp hindex
      have hkey : v.entries[j].1 = k := of_decide_eq_true hkey
      rw [(getElem?_eq_some_iff.mp (getElem?_eq_getElem hj)).2, hkey]

/-! ## What is there after an operation -/

lemma mem_add : e ∈ (v.add k a).entries ↔ e = (k, a) ∨ e ∈ v.entries ∧ e.1 ≠ k := by
  simp only [add, mem_append, mem_cons, mem_filter, decide_eq_true_eq]
  constructor
  · rintro (⟨he, hlt⟩ | rfl | ⟨he, hlt⟩)
    · exact .inr ⟨he, ne_of_lt hlt⟩
    · exact .inl rfl
    · exact .inr ⟨he, ne_of_gt hlt⟩
  · rintro (rfl | ⟨he, hne⟩)
    · exact .inr (.inl rfl)
    · rcases lt_or_gt_of_ne hne with hlt | hlt
      · exact .inl ⟨he, hlt⟩
      · exact .inr (.inr ⟨he, hlt⟩)

lemma mem_removeItem : e ∈ (v.removeItem k).entries ↔ e ∈ v.entries ∧ e.1 ≠ k := by
  simp [removeItem]

lemma keys_setAt (v : SortedVector κ ν) (i : ℕ) (a : ν) : (v.setAt i a).keys = v.keys := map_fst_modify v.entries i a

lemma mem_setAt {b : ν} (h : v.entries[i]? = some (k', b)) :
    e ∈ (v.setAt i a).entries ↔ e = (k', a) ∨ e ∈ v.entries ∧ e.1 ≠ k' := by
  have hrank := (getElem?_eq_some_iff.mp h).2
  have hget : ∀ j, (v.setAt i a).entries[j]? = v.entries[j]?.map fun e => if i = j then (e.1, a) else e :=
    fun j => getElem?_modify _ i v.entries j
  rw [mem_iff_getElem?]
  constructor
  · rintro ⟨j, hj⟩
    rw [hget] at hj
    obtain ⟨e', he', rfl⟩ := Option.map_eq_some_iff.mp hj
    by_cases hij : i = j
    · subst hij
      cases he'.symm.trans h
      exact .inl (if_pos rfl)
    · rw [if_neg hij]
      obtain ⟨hmem, hrank'⟩ := getElem?_eq_some_iff.mp he'
      refine .inr ⟨hmem, fun hkey => hij ?_⟩
      rw [hrank, hrank', hkey]
  · rintro (rfl | ⟨hmem, hne⟩)
    · exact ⟨i, by rw [hget, h, Option.map_some, if_pos rfl]⟩
    · obtain ⟨j, hj⟩ := mem_iff_getElem?.mp hmem
      have hij : i ≠ j := by
        rintro rfl
        exact hne (congrArg Prod.fst (Option.some.inj (hj.symm.trans h)))
      exact ⟨j, by rw [hget, hj, Option.map_some, if_neg hij]⟩

lemma setAt_of_getElem? (h : v.entries[i]? = none) : v.setAt i a = v :=
  SortedVector.ext (modify_eq_self (List.getElem?_eq_none_iff.mp h))

/-! ## Where it is then -/

lemma rank_setAt (v : SortedVector κ ν) (i : ℕ) (a : ν) (k : κ) : (v.setAt i a).rank k = v.rank k := by
  rw [rank, keys_setAt, rank]

lemma keys_removeItem (v : SortedVector κ ν) (k : κ) : (v.removeItem k).keys = v.keys.filter fun k' => k' ≠ k := by
  rw [keys, keys, filter_map]
  rfl

lemma keys_add (v : SortedVector κ ν) (k : κ) (a : ν) :
    (v.add k a).keys = (v.keys.filter fun k' => k' < k) ++ k :: v.keys.filter fun k' => k < k' := by
  rw [keys, keys, filter_map, filter_map, add, map_append, map_cons]
  rfl

lemma mem_keys_removeItem : k' ∈ (v.removeItem k).keys ↔ k' ∈ v.keys ∧ k' ≠ k := by
  rw [keys_removeItem, mem_filter, decide_eq_true_eq]

lemma mem_keys_add : k' ∈ (v.add k a).keys ↔ k' = k ∨ k' ∈ v.keys := by
  simp only [mem_keys, mem_add, Prod.mk.injEq]
  constructor
  · rintro ⟨b, ⟨rfl, -⟩ | ⟨hmem, -⟩⟩
    · exact .inl rfl
    · exact .inr ⟨b, hmem⟩
  · rintro (rfl | ⟨b, hmem⟩)
    · exact ⟨a, .inl ⟨rfl, rfl⟩⟩
    · by_cases hkey : k' = k
      · exact ⟨a, .inl ⟨hkey, rfl⟩⟩
      · exact ⟨b, .inr ⟨hmem, hkey⟩⟩

lemma rank_removeItem (v : SortedVector κ ν) (k k' : κ) :
    (v.removeItem k).rank k' + (if k ∈ v.keys ∧ k < k' then 1 else 0) = v.rank k' := by
  have hself : v.keys.countP (fun k'' => k'' < k' && !decide (k'' ≠ k)) = if k ∈ v.keys ∧ k < k' then 1 else 0 := by
    by_cases hlt : k < k'
    · have hcount : v.keys.countP (fun k'' => k'' < k' && !decide (k'' ≠ k)) = v.keys.count k := by
        rw [count_eq_countP]
        refine countP_congr fun k'' _ => ?_
        constructor
        · intro h
          simpa using (Bool.and_eq_true_iff.mp h).2
        · intro h
          obtain rfl := beq_iff_eq.mp h
          simpa using hlt
      rw [hcount]
      by_cases hk : k ∈ v.keys
      · rw [if_pos ⟨hk, hlt⟩, count_eq_one_of_mem v.keys_nodup hk]
      · rw [if_neg fun h => hk h.1, count_eq_zero_of_not_mem hk]
    · rw [if_neg fun h => hlt h.2, countP_eq_zero]
      intro k'' _ h
      obtain ⟨hlt', hkey⟩ := Bool.and_eq_true_iff.mp h
      obtain rfl : k'' = k := by simpa using hkey
      exact hlt (of_decide_eq_true hlt')
  rw [rank, rank, keys_removeItem, ← hself, ← countP_filter, ← countP_eq_countP_filter_add]

lemma rank_add (v : SortedVector κ ν) (k k' : κ) (a : ν) :
    (v.add k a).rank k' = v.rank k' + if k ∉ v.keys ∧ k < k' then 1 else 0 := by
  have hbelow : (v.keys.filter fun k'' => k'' ≠ k).filter (fun k'' => k'' < k) = v.keys.filter fun k'' => k'' < k := by
    rw [filter_filter]
    refine filter_congr fun k'' _ => ?_
    rw [Bool.eq_iff_iff]
    simpa using fun hlt => ne_of_lt hlt
  have habove : (v.keys.filter fun k'' => k'' ≠ k).filter (fun k'' => !decide (k'' < k))
      = v.keys.filter fun k'' => k < k'' := by
    rw [filter_filter]
    refine filter_congr fun k'' _ => ?_
    have hiff : (¬ k'' < k ∧ k'' ≠ k) ↔ k < k'' := by
      constructor
      · exact fun h => lt_of_le_of_ne (not_lt.mp h.1) h.2.symm
      · exact fun h => ⟨not_lt_of_gt h, ne_of_gt h⟩
    rw [Bool.eq_iff_iff]
    simpa using hiff
  have hsplit := countP_eq_countP_filter_add (v.keys.filter fun k'' => k'' ≠ k) (fun k'' => k'' < k')
    fun k'' => k'' < k
  have hadd : (v.add k a).rank k' = (v.removeItem k).rank k' + if k < k' then 1 else 0 := by
    rw [hbelow, habove] at hsplit
    rw [rank, rank, keys_add, keys_removeItem, hsplit, countP_append, countP_cons]
    simp only [decide_eq_true_eq]
    omega
  rw [hadd, ← rank_removeItem v k k', Nat.add_assoc]
  congr 1
  by_cases hk : k ∈ v.keys
  · simp [hk]
  · simp [hk]

end SortedVector

end Hal
