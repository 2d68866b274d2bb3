import Mathlib.Data.List.TakeWhile
import Mathlib.Data.List.Nodup

/-!
# Removal by key

A list that is searched for the first entry which passes a test, in order to take out one entry in
particular.  The right one is found iff no entry in front of it passes the test, and then removal by the
test is removal of the entry.

`eraseKeys` removes the first entry under each of some keys; what is left is what was not the first under
any of them (`mem_eraseKeys`).  Where entries have owners, and the first entries under the keys are of owners
that are meant (`FirstsAre`), only theirs are removed, and all of theirs if each is under one of the keys.
-/

namespace Hal

open List Option

variable {α : Type*} [DecidableEq α] {p : α → Bool} {l : List α} {t : α}

/-- **The search finds `t`** iff nothing in front of it passes the test. -/
lemma find?_eq_some_iff_takeWhile (hmem : t ∈ l) (ht : p t = true) :
    l.find? p = some t ↔ ∀ a ∈ l.takeWhile (· ≠ t), ¬ p a = true := by
  induction l with
  | nil => exact absurd hmem not_mem_nil
  | cons a l ih =>
    by_cases ha : a = t
    · subst ha
      simp [ht]
    · have hmem' : t ∈ l := (mem_cons.mp hmem).resolve_left fun heq => ha heq.symm
      rw [takeWhile_cons_of_pos (by simpa using ha)]
      by_cases hp : p a = true
      · simp [hp, ha]
      · simp only [find?_cons, Bool.eq_false_iff.mpr hp, ih hmem', forall_mem_cons]
        simp

lemma takeWhile_ne_of_notMem (h : t ∉ l) : l.takeWhile (· ≠ t) = l := by
  rw [takeWhile_eq_self_iff]
  intro a ha
  simpa using fun heq : a = t => h (heq ▸ ha)

lemma takeWhile_ne_append (h : t ∉ l) (rest : List α) : (l ++ t :: rest).takeWhile (· ≠ t) = l := by
  rw [takeWhile_append_of_pos fun a ha => decide_eq_true (ne_of_mem_of_not_mem ha h), takeWhile_cons_of_neg (by simp),
    append_nil]

lemma eraseP_eq_erase (h : l.find? p = some t) : l.eraseP p = l.erase t := by
  induction l with
  | nil => rfl
  | cons a l ih =>
    by_cases hp : p a = true
    · rw [find?_cons_of_pos hp] at h
      cases h
      rw [eraseP_cons_of_pos hp, erase_cons_head]
    · rw [find?_cons_of_neg hp] at h
      have ha : a ≠ t := fun heq => hp (heq ▸ find?_some h)
      rw [eraseP_cons_of_neg hp, ih h, erase_cons_tail (by simpa using ha)]

section Keys

variable {κ : Type*} [DecidableEq κ] {key : α → κ} {a : α} {k : κ} {ks : List κ}

/-- The list without the first entry under each of the keys. -/
def eraseKeys (key : α → κ) (ks : List κ) (l : List α) : List α :=
  ks.foldl (fun l k => l.eraseP fun a => key a = k) l

omit [DecidableEq α] in
lemma eraseKeys_sublist (ks : List κ) (l : List α) : (eraseKeys key ks l).Sublist l := by
  induction ks generalizing l with
  | nil => exact List.Sublist.refl l
  | cons k ks ih => exact (ih _).trans eraseP_sublist

lemma mem_eraseP_key (hl : l.Nodup) :
    a ∈ l.eraseP (fun b => key b = k) ↔ a ∈ l ∧ l.find? (fun b => key b = k) ≠ some a := by
  cases hfind : l.find? (fun b => key b = k) with
  | none =>
    rw [eraseP_of_forall_not (find?_eq_none.mp hfind)]
    simp
  | some b =>
    rw [eraseP_eq_erase hfind, hl.mem_erase_iff, and_comm, ne_comm]
    simp

omit [DecidableEq α] in
lemma find?_eraseP_key {k' : κ} (hne : k' ≠ k) (l : List α) :
    (l.eraseP fun b => key b = k).find? (fun b => key b = k') = l.find? (fun b => key b = k') := by
  induction l with
  | nil => rfl
  | cons b l ih =>
    by_cases hb : key b = k
    · simp [hb, hne.symm]
    · rw [eraseP_cons_of_neg (by simpa using hb), find?_cons, find?_cons, ih]

/-- **What is left** was not the first under any of the keys. -/
lemma mem_eraseKeys (hl : l.Nodup) (hks : ks.Nodup) :
    a ∈ eraseKeys key ks l ↔ a ∈ l ∧ ∀ k ∈ ks, l.find? (fun b => key b = k) ≠ some a := by
  induction ks generalizing l with
  | nil => simp [eraseKeys]
  | cons k ks ih =>
    rw [nodup_cons] at hks
    have hrest : ∀ k' ∈ ks, (l.eraseP fun b => key b = k).find? (fun b => key b = k')
        = l.find? (fun b => key b = k') :=
      fun k' hk' => find?_eraseP_key (fun heq : k' = k => hks.1 (heq ▸ hk')) l
    show a ∈ eraseKeys key ks (l.eraseP fun b => key b = k) ↔ _
    rw [ih (hl.sublist eraseP_sublist) hks.2, mem_eraseP_key hl, forall_mem_cons, and_assoc]
    refine and_congr_right fun _ => and_congr_right fun _ => forall₂_congr fun k' hk' => ?_
    rw [hrest k' hk']

end Keys

section Owners

variable {κ γ : Type*} [DecidableEq κ] {key : α → κ} {owner : α → γ} {ks : List κ} {old new : List α}
  {a : α} {about : γ → Prop}

/-- The first entry under each of the keys, if there is one, is of an owner that is meant. -/
def FirstsAre (key : α → κ) (owner : α → γ) (about : γ → Prop) (ks : List κ) (l : List α) : Prop :=
  ∀ k ∈ ks, ∀ a ∈ l.find? (fun b => key b = k), about (owner a)

omit [DecidableEq α] in
lemma FirstsAre.append (h : FirstsAre key owner about ks old) (hnew : ∀ a ∈ new, about (owner a)) :
    FirstsAre key owner about ks (old ++ new) := by
  intro k hk a ha
  rw [mem_def, find?_append, or_eq_some_iff] at ha
  rcases ha with ha | ⟨-, ha⟩
  · exact h k hk a ha
  · exact hnew a (mem_of_find?_eq_some ha)

lemma FirstsAre.about_of_erased (h : FirstsAre key owner about ks l) (hl : l.Nodup) (hks : ks.Nodup)
    (hmem : a ∈ l) (herased : a ∉ eraseKeys key ks l) : about (owner a) := by
  rw [mem_eraseKeys hl hks, not_and, not_forall] at herased
  rcases herased hmem with ⟨k, hk⟩
  rw [Classical.not_imp, not_not] at hk
  exact h k hk.1 a hk.2

lemma notMem_eraseKeys_append (hl : (old ++ new).Nodup) (hks : ks.Nodup) {k : κ} (hk : k ∈ ks)
    (ha : a ∈ old.find? fun b => key b = k) : a ∉ eraseKeys key ks (old ++ new) := by
  rw [mem_eraseKeys hl hks]
  rintro ⟨-, hfirst⟩
  refine hfirst k hk ?_
  rw [find?_append, ha, some_or]

lemma FirstsAre.owner_ne (h : FirstsAre key owner about ks l) (hl : l.Nodup) (hks : ks.Nodup)
    (hinj : ∀ a b, key a = key b → owner a = owner b → a = b) {c : γ} (honly : ∀ c', about c' → c' = c)
    (hkeys : ∀ a ∈ l, owner a = c → key a ∈ ks) (hmem : a ∈ eraseKeys key ks l) : owner a ≠ c := by
  rintro rfl
  rcases (mem_eraseKeys hl hks).mp hmem with ⟨hmem, hfirst⟩
  have hk := hkeys a hmem rfl
  have hsome : (l.find? fun b => key b = key a).isSome := find?_isSome.mpr ⟨a, hmem, by simp⟩
  rcases isSome_iff_exists.mp hsome with ⟨b, hb⟩
  have hkey : key b = key a := by simpa using find?_some hb
  have heq : b = a := hinj b a hkey (honly _ (h _ hk b hb))
  exact hfirst _ hk (heq ▸ hb)

/-- **What is left is live**: where no entry was of an owner released before, and all entries of one that is
released now are under the keys, no entry is left of either. -/
lemma FirstsAre.notMem_released {released releases : List γ} (h : FirstsAre key owner about ks l)
    (hl : l.Nodup) (hks : ks.Nodup) (hinj : ∀ a b, key a = key b → owner a = owner b → a = b)
    (hlive : ∀ a ∈ l, owner a ∉ released) (honly : ∀ c ∈ releases, ∀ c', about c' → c' = c)
    (hkeys : ∀ c ∈ releases, ∀ a ∈ l, owner a = c → key a ∈ ks) (hmem : a ∈ eraseKeys key ks l) :
    owner a ∉ released ++ releases := by
  intro hreleased
  rcases mem_append.mp hreleased with hold | hnow
  · exact hlive a ((eraseKeys_sublist ks l).mem hmem) hold
  · exact h.owner_ne hl hks hinj (honly _ hnow) (hkeys _ hnow) hmem rfl

end Owners

section Fresh

variable {old new : List α} {number : α → ℕ} {n : ℕ}

omit [DecidableEq α] in
lemma nodup_append_of_fresh (hold : old.Nodup) (hnew : new.Nodup) (hlt : ∀ a ∈ old, number a < n)
    (heq : ∀ a ∈ new, number a = n) : (old ++ new).Nodup := by
  refine nodup_append'.mpr ⟨hold, hnew, fun a ha ha' => ?_⟩
  exact absurd (heq a ha') (hlt a ha).ne

end Fresh

end Hal
