import Mathlib.Data.Nat.Basic
import DeviceHal.Core.SortedVector

/-!
# Keyed vectors

A sorted vector as code sees it that goes by the keys: a value is under a key (`valueFor`) exactly if the two are an
entry (`valueFor_eq_some`), and every operation is described by the entries it leaves, and by what is under each key
then.  `KeyedVector` is the vector whose keys are numbers.
-/

namespace Hal

open List

abbrev KeyedVector (α : Type*) := SortedVector ℕ α

namespace SortedVector

variable {κ α : Type*} [LinearOrder κ]

def size (v : SortedVector κ α) : ℕ := v.entries.length

def valueFor (v : SortedVector κ α) (k : κ) : Option α := (v.entries.find? fun e => e.1 = k).map Prod.snd

def valueAt (v : SortedVector κ α) (i : ℕ) : Option α := v.entries[i]?.map Prod.snd

def removeAt (v : SortedVector κ α) (i : ℕ) : SortedVector κ α where
  entries := v.entries.eraseIdx i
  sorted := v.sorted.sublist ((List.eraseIdx_sublist v.entries i).map Prod.fst)

def mapValues (v : SortedVector κ α) (f : α → α) : SortedVector κ α where
  entries := v.entries.map fun e => (e.1, f e.2)
  sorted := by
    rw [List.map_map]
    exact v.sorted

/-- An entry after the value under a key has been changed. -/
def modifyEntry (k : κ) (f : α → α) (e : κ × α) : κ × α := (e.1, if e.1 = k then f e.2 else e.2)

/-- Changes the value under a key where it stands, if there is one. -/
def modify (v : SortedVector κ α) (k : κ) (f : α → α) : SortedVector κ α where
  entries := v.entries.map (modifyEntry k f)
  sorted := by
    rw [List.map_map]
    exact v.sorted

variable {v : SortedVector κ α} {k : κ} {a : α}

/-- **A value is under a key exactly if the two are an entry.** -/
theorem valueFor_eq_some : v.valueFor k = some a ↔ (k, a) ∈ v.entries := by
  unfold valueFor
  constructor
  · intro h
    obtain ⟨e, hfind, rfl⟩ := Option.map_eq_some_iff.mp h
    have hkey : e.1 = k := by simpa using find?_some hfind
    rw [← hkey]
    exact mem_of_find?_eq_some hfind
  · intro h
    cases hfind : v.entries.find? fun e => e.1 = k with
    | none => simpa using find?_eq_none.mp hfind (k, a) h
    | some e =>
      have hkey : e.1 = k := by simpa using find?_some hfind
      have hmem : (k, e.2) ∈ v.entries := hkey ▸ mem_of_find?_eq_some hfind
      rw [eq_of_mem h hmem]
      rfl

lemma valueFor_eq_none : v.valueFor k = none ↔ k ∉ v.keys := by
  rw [mem_keys, not_exists, Option.eq_none_iff_forall_ne_some]
  exact forall_congr' fun a => not_congr valueFor_eq_some

/-- **A vector is what is under its keys.** -/
lemma ext_valueFor {w : SortedVector κ α} (h : ∀ k, v.valueFor k = w.valueFor k) : v = w := by
  have hmem : ∀ e, e ∈ v.entries ↔ e ∈ w.entries := fun e => by
    rw [← valueFor_eq_some (v := v), h, valueFor_eq_some]
  have hperm := (perm_ext_iff_of_nodup (Nodup.of_map _ v.keys_nodup) (Nodup.of_map _ w.keys_nodup)).mpr hmem
  exact SortedVector.ext (hperm.eq_of_pairwise (fun _ _ _ _ hlt hlt' => absurd hlt (lt_asymm hlt'))
    (pairwise_map.mp v.sorted) (pairwise_map.mp w.sorted))

@[simp] lemma valueFor_empty (k : κ) : (empty : SortedVector κ α).valueFor k = none := rfl

lemma valueFor_add (v : SortedVector κ α) (k k' : κ) (a : α) :
    (v.add k a).valueFor k' = if k' = k then some a else v.valueFor k' := by
  refine Option.ext fun b => ?_
  rw [valueFor_eq_some, mem_add]
  by_cases hk : k' = k
  · simp [hk, eq_comm]
  · simp [hk, valueFor_eq_some]

/-- **What holds of the new value and of the others** holds of all after an `add`. -/
lemma forall_add {P : κ → α → Prop} (ha : P k a)
    (h : ∀ k' b, k' ≠ k → v.valueFor k' = some b → P k' b) : ∀ k' b, (v.add k a).valueFor k' = some b → P k' b := by
  intro k' b hk'
  rw [valueFor_add] at hk'
  split_ifs at hk' with hkey
  · cases hk'
    rw [hkey]
    exact ha
  · exact h k' b hkey hk'

lemma add_add (v : SortedVector κ α) (k : κ) (a b : α) : (v.add k a).add k b = v.add k b := by
  refine ext_valueFor fun k' => ?_
  simp only [valueFor_add]
  split_ifs <;> rfl

lemma add_valueFor (h : v.valueFor k = some a) : v.add k a = v := by
  refine ext_valueFor fun k' => ?_
  rw [valueFor_add]
  split_ifs with hk
  · rw [hk, h]
  · rfl

lemma valueFor_removeItem (v : SortedVector κ α) (k k' : κ) :
    (v.removeItem k).valueFor k' = if k' = k then none else v.valueFor k' := by
  refine Option.ext fun b => ?_
  rw [valueFor_eq_some]
  by_cases hk : k' = k
  · simp [removeItem, hk]
  · simp [removeItem, hk, valueFor_eq_some]

lemma valueFor_mapValues (v : SortedVector κ α) (f : α → α) (k : κ) :
    (v.mapValues f).valueFor k = (v.valueFor k).map f := by
  simp [valueFor, mapValues, find?_map, Function.comp_def]

lemma keys_mapValues (v : SortedVector κ α) (f : α → α) : (v.mapValues f).keys = v.keys := by
  simp [keys, mapValues, Function.comp_def]

lemma entries_modify (v : SortedVector κ α) (k : κ) (f : α → α) :
    (v.modify k f).entries = v.entries.map (modifyEntry k f) := rfl

lemma valueFor_modify_eq_some {k' : κ} {f : α → α} {b : α} :
    (v.modify k f).valueFor k' = some b ↔ ∃ a, v.valueFor k' = some a ∧ (if k' = k then f a else a) = b := by
  simp only [valueFor_eq_some, modify, mem_map, modifyEntry, Prod.mk.injEq]
  constructor
  · rintro ⟨⟨k'', a⟩, he, rfl, rfl⟩
    exact ⟨a, he, rfl⟩
  · rintro ⟨a, he, rfl⟩
    exact ⟨(k', a), he, rfl, rfl⟩

lemma valueFor_modify (v : SortedVector κ α) (k k' : κ) (f : α → α) :
    (v.modify k f).valueFor k' = (v.valueFor k').map fun a => if k' = k then f a else a := by
  refine Option.ext fun b => ?_
  rw [valueFor_modify_eq_some, Option.map_eq_some_iff]

lemma modify_congr {f g : α → α} (h : ∀ a, v.valueFor k = some a → f a = g a) : v.modify k f = v.modify k g := by
  refine ext_valueFor fun k' => ?_
  rw [valueFor_modify, valueFor_modify]
  refine Option.map_congr fun a ha => ?_
  split_ifs with hk
  · exact h a (hk ▸ ha)
  · rfl

lemma modify_id (v : SortedVector κ α) (k : κ) : v.modify k id = v := by
  refine ext_valueFor fun k' => ?_
  simp [valueFor_modify]

/-- Changing the values under all keys, one after the other, is changing all values. -/
lemma foldl_modify_keys (v : SortedVector κ α) (f : α → α) :
    v.keys.foldl (fun w k => w.modify k f) v = v.mapValues f := by
  have hloop : ∀ (ks : List κ) (w : SortedVector κ α), ks.Nodup → ∀ k,
      (ks.foldl (fun w k => w.modify k f) w).valueFor k = (w.valueFor k).map fun a => if k ∈ ks then f a else a := by
    intro ks
    induction ks with
    | nil => simp
    | cons k' ks ih =>
      intro w hnodup k
      obtain ⟨hk', hks⟩ := nodup_cons.mp hnodup
      rw [foldl_cons, ih _ hks, valueFor_modify, Option.map_map]
      congr 1
      funext a
      by_cases hk : k = k'
      · simp [hk, hk']
      · simp [hk]
  refine ext_valueFor fun k => ?_
  rw [hloop _ _ v.keys_nodup, valueFor_mapValues]
  by_cases hk : k ∈ v.keys
  · simp [hk]
  · rw [valueFor_eq_none.mpr hk]
    rfl

lemma isSome_valueFor_modify (v : SortedVector κ α) (k k' : κ) (f : α → α) :
    ((v.modify k f).valueFor k').isSome = (v.valueFor k').isSome := by
  rw [Bool.eq_iff_iff, Option.isSome_iff_exists, Option.isSome_iff_exists]
  simp [valueFor_modify_eq_some]

section Place

variable {v : SortedVector κ α} {before after : List (κ × α)} {e : κ × α} (h : v.entries = before ++ e :: after)

include h

lemma ne_of_entries_eq : ∀ e' ∈ before ++ after, e'.1 ≠ e.1 := by
  have hsorted := List.pairwise_map.mp v.sorted
  rw [h, pairwise_append, pairwise_cons] at hsorted
  obtain ⟨-, ⟨hafter, -⟩, hbefore⟩ := hsorted
  intro e' he'
  rcases mem_append.mp he' with he' | he'
  · exact ne_of_lt (hbefore e' he' e mem_cons_self)
  · exact ne_of_gt (hafter e' he')

lemma entries_removeItem : (v.removeItem e.1).entries = before ++ after := by
  have hkept : (before ++ after).filter (fun e' => decide (e'.1 ≠ e.1)) = before ++ after :=
    List.filter_eq_self.mpr fun e' he' => decide_eq_true (ne_of_entries_eq h e' he')
  show v.entries.filter (fun e' => decide (e'.1 ≠ e.1)) = before ++ after
  rw [h, filter_append, filter_cons_of_neg (by simp), ← filter_append, hkept]

lemma entries_removeItem_modify (k : κ) (f : α → α) :
    ((v.modify k f).removeItem e.1).entries = (before ++ after).map (modifyEntry k f) := by
  have hmodify : (v.modify k f).entries
      = before.map (modifyEntry k f) ++ modifyEntry k f e :: after.map (modifyEntry k f) := by
    rw [entries_modify, h, map_append, map_cons]
  have hremove := entries_removeItem hmodify
  rw [← map_append] at hremove
  exact hremove

lemma entries_removeItem_modify_self (f : α → α) :
    ((v.modify e.1 f).removeItem e.1).entries = before ++ after := by
  rw [entries_removeItem_modify h, map_congr_left (g := id), map_id]
  intro e' he'
  simp [modifyEntry, ne_of_entries_eq h e' he']

end Place

end SortedVector

end Hal
