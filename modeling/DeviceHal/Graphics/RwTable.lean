import Mathlib.Data.Nat.Basic
import DeviceHal.Core.Machine
import DeviceHal.Core.SortedVector

/-!
# The table with a lock for readers and writers

`RWTable::operator[]` looks a key up under the lock for reading.  If it is not there, it is added with an empty value
under the lock for writing, and either way a reference to the value is returned, through which the caller writes without
the lock.

**The defects.**  Between the two regions another thread may have added the key and stored a value; `add` replaces what
is there, so the value is lost.  And a reference is the address of a place in the array of the vector: a key that comes
or goes, by whomever, moves the values behind it, or the whole array.

* `RwTable` — the operations; where the array of the vector is after it has grown or shrunk is up to the allocator.
* `RwState` — a table and any number of threads, each region and each write one step.  Ghosts: the value that was last
  stored under each key since it was created, and the references that were returned for keys not removed since.
* `Kept`, `Seen` — what was stored is still there, and a reference leads to the value of its key.
* `Keeps`, `Stays` — a step adds no key that has a value other than the empty one, and moves no value that a reference
  was returned for.
* **`lookups_keep_iff`** — what is stored stays all along a run **iff** its steps meet the first condition, and all who
  have looked a key up see it **iff** they meet both.
* `refines_atomic` — a run that meets the first condition is one of a table whose lookups are one step.
-/

namespace Hal

open List Option Function SortedVector

/-- The address of a value: where the array of the vector is, and the position in it. -/
structure ValueRef where
  storage : ℕ
  index : ℕ
deriving DecidableEq

/-- `RWTable`: its vector, and where the array of the vector is. -/
structure RwTable (κ ν : Type*) [LinearOrder κ] where
  mMap : SortedVector κ ν
  storage : ℕ

namespace RwTable

variable {κ ν : Type*} [LinearOrder κ]

def find (t : RwTable κ ν) (key : κ) : Option ValueRef := (t.mMap.indexOf key).map (ValueRef.mk t.storage)

/-- `add` in the second region.  A key that is there has its value replaced; otherwise the vector grows, and its array
is at `addr` then. -/
def add (t : RwTable κ ν) (empty : ν) (key : κ) (addr : ℕ) : RwTable κ ν where
  mMap := t.mMap.add key empty
  storage := if key ∈ t.mMap.keys then t.storage else addr

def valueAt (t : RwTable κ ν) (idx : ℕ) : ValueRef := ⟨t.storage, idx⟩

/-- `remove`.  If the key is there the vector shrinks, and its array is at `addr` then. -/
def remove (t : RwTable κ ν) (key : κ) (addr : ℕ) : Bool × RwTable κ ν :=
  (key ∈ t.mMap.keys, ⟨t.mMap.removeItem key, if key ∈ t.mMap.keys then addr else t.storage⟩)

def size (t : RwTable κ ν) : ℕ := t.mMap.entries.length

/-- What a reference leads to: the pair at its place, if that is in the array. -/
def deref (t : RwTable κ ν) (r : ValueRef) : Option (κ × ν) :=
  if r.storage = t.storage then t.mMap.entries[r.index]? else none

def assign (t : RwTable κ ν) (r : ValueRef) (v : ν) : RwTable κ ν :=
  if r.storage = t.storage then ⟨t.mMap.setAt r.index v, t.storage⟩ else t

variable {t : RwTable κ ν} {k : κ} {r : ValueRef} {v : ν}

lemma find_eq_some_iff : t.find k = some r ↔ k ∈ t.mMap.keys ∧ r = ⟨t.storage, t.mMap.rank k⟩ := by
  rw [find, map_eq_some_iff]
  constructor
  · rintro ⟨i, hi, rfl⟩
    obtain ⟨hmem, rfl⟩ := indexOf_eq_some_iff.mp hi
    exact ⟨hmem, rfl⟩
  · rintro ⟨hmem, rfl⟩
    exact ⟨_, indexOf_eq_some_iff.mpr ⟨hmem, rfl⟩, rfl⟩

lemma deref_eq_some_iff {e : κ × ν} : t.deref r = some e ↔ e ∈ t.mMap.entries ∧ r = ⟨t.storage, t.mMap.rank e.1⟩ := by
  rw [deref, ite_none_right_eq_some, SortedVector.getElem?_eq_some_iff, ValueRef.mk.injEq]
  tauto

/-- A reference leads to the value of a key iff it is the one that looking the key up returns. -/
lemma exists_deref_iff : (∃ a, t.deref r = some (k, a)) ↔ t.find k = some r := by
  simp only [deref_eq_some_iff, find_eq_some_iff, SortedVector.mem_keys, exists_and_right]

lemma assign_of_deref_eq_none (h : t.deref r = none) : t.assign r v = t := by
  rw [assign]
  split_ifs with hstorage
  · rw [deref, if_pos hstorage] at h
    rw [setAt_of_getElem? h]
  · rfl

lemma mem_assign {k' : κ} {b : ν} {e : κ × ν} (h : t.deref r = some (k', b)) :
    e ∈ (t.assign r v).mMap.entries ↔ e = (k', v) ∨ e ∈ t.mMap.entries ∧ e.1 ≠ k' := by
  rw [deref, ite_none_right_eq_some] at h
  rw [assign, if_pos h.1]
  exact mem_setAt h.2

lemma find_assign (t : RwTable κ ν) (r : ValueRef) (v : ν) (k : κ) : (t.assign r v).find k = t.find k := by
  refine Option.ext fun r' => ?_
  rw [assign]
  split_ifs
  · simp only [find_eq_some_iff, keys_setAt, rank_setAt]
  · rfl

lemma find_add_iff {empty : ν} {key : κ} {addr : ℕ} (hfind : t.find k = some r) :
    (t.add empty key addr).find k = some r ↔ (key ∉ t.mMap.keys → k < key ∧ addr = t.storage) := by
  obtain ⟨hmem, rfl⟩ := find_eq_some_iff.mp hfind
  rw [find_eq_some_iff, add, and_iff_right (mem_keys_add.mpr (.inr hmem)), ValueRef.mk.injEq,
    rank_add]
  by_cases hkey : key ∈ t.mMap.keys
  · simp [hkey]
  · have hne : k ≠ key := fun heq => hkey (heq ▸ hmem)
    rcases lt_or_gt_of_ne hne with hlt | hgt
    · simp [hkey, hlt, not_lt_of_gt hlt, eq_comm]
    · simp [hkey, hgt, not_lt_of_gt hgt]

lemma find_remove_iff {key : κ} {addr : ℕ} (hfind : t.find k = some r) (hne : k ≠ key) :
    (t.remove key addr).2.find k = some r ↔ (key ∈ t.mMap.keys → k < key ∧ addr = t.storage) := by
  obtain ⟨hmem, rfl⟩ := find_eq_some_iff.mp hfind
  have hrank := rank_removeItem t.mMap key k
  rw [find_eq_some_iff, remove, and_iff_right (mem_keys_removeItem.mpr ⟨hmem, hne⟩), ValueRef.mk.injEq,
    ← hrank]
  by_cases hkey : key ∈ t.mMap.keys
  · rcases lt_or_gt_of_ne hne with hlt | hgt
    · simp [hkey, hlt, not_lt_of_gt hlt, eq_comm]
    · simp [hkey, hgt, not_lt_of_gt hgt]
  · simp [hkey]

end RwTable

/-! ## What a table is for -/

/-- An operation on a map whose lookups add the keys that are not there. -/
inductive TableOp (κ ν : Type*) where
  | lookup (key : κ)
  | store (key : κ) (v : ν)
  | remove (key : κ)

def TableOp.step {κ ν : Type*} [DecidableEq κ] (empty : ν) (m : κ → Option ν) : TableOp κ ν → Option (κ → Option ν)
  | .lookup key => some (if (m key).isSome then m else update m key (some empty))
  | .store key v => if (m key).isSome then some (update m key (some v)) else none
  | .remove key => some (update m key none)

/-! ## The threads -/

/-- A table and its threads.  A thread that has not found its key is between the regions.  The last two are ghosts. -/
structure RwState (τ κ ν : Type*) [LinearOrder κ] where
  table : RwTable κ ν
  pending : τ → Option κ
  refs : List ValueRef
  stored : κ → Option ν
  seers : List (κ × ValueRef)

inductive RwAct (τ κ ν : Type*) where
  | find (t : τ) (key : κ)
  | insert (t : τ) (addr : ℕ)
  | valueAt (t : τ) (idx : ℕ)
  | write (t : τ) (r : ValueRef) (v : ν)
  | remove (t : τ) (key : κ) (addr : ℕ)

namespace RwState

variable {τ κ ν : Type*} [LinearOrder κ]

def start : RwState τ κ ν := ⟨⟨.empty, 0⟩, fun _ => none, [], fun _ => none, []⟩

def returned (s : RwState τ κ ν) (key : κ) (r : ValueRef) : RwState τ κ ν :=
  { s with refs := r :: s.refs, seers := (key, r) :: s.seers }

/-- What is stored after a write, which goes to the key whose value is where the reference leads. -/
def storedBy (s : RwState τ κ ν) (r : ValueRef) (v : ν) : κ → Option ν :=
  match s.table.deref r with
  | some (k, _) => update s.stored k (some v)
  | none => s.stored

def wrote (s : RwState τ κ ν) (r : ValueRef) (v : ν) : RwState τ κ ν :=
  { s with table := s.table.assign r v, stored := s.storedBy r v }

def removed (s : RwState τ κ ν) (key : κ) (addr : ℕ) : RwState τ κ ν :=
  { s with
    table := (s.table.remove key addr).2
    stored := update s.stored key none
    seers := s.seers.filter fun e => e.1 ≠ key }

/-- A thread adds its key, and is between the regions no more. -/
def added [DecidableEq τ] (empty : ν) (s : RwState τ κ ν) (t : τ) (key : κ) (addr : ℕ) : RwState τ κ ν :=
  { s with table := s.table.add empty key addr, pending := update s.pending t none }

variable {s s' : RwState τ κ ν} {a : RwAct τ κ ν}

/-! ## What is asked -/

/-- **What was stored under a key is there.** -/
def Kept (s : RwState τ κ ν) : Prop := ∀ k v, s.stored k = some v → (k, v) ∈ s.table.mMap.entries

/-- **A reference that was returned for a key leads to its value**, for as long as the key is not removed. -/
def Seen (s : RwState τ κ ν) : Prop := ∀ k r, (k, r) ∈ s.seers → ∃ v, s.table.deref r = some (k, v)

/-- The key that is added has no value that was stored, or the empty one. -/
def Keeps (empty : ν) (s : RwState τ κ ν) : RwAct τ κ ν → Prop
  | .insert t _ => ∀ k ∈ s.pending t, ∀ v ∈ s.stored k, v = empty
  | _ => True

/-- A key that comes or goes has no reference behind it that was returned, and none at all if the array moves. -/
def Stays (s : RwState τ κ ν) : RwAct τ κ ν → Prop
  | .insert t addr => ∀ k ∈ s.pending t, k ∉ s.table.mMap.keys → ∀ e ∈ s.seers, e.1 < k ∧ addr = s.table.storage
  | .remove _ k addr => k ∈ s.table.mMap.keys → ∀ e ∈ s.seers, e.1 = k ∨ e.1 < k ∧ addr = s.table.storage
  | _ => True

instance [DecidableEq ν] (empty : ν) : DecidablePred (s.Keeps empty)
  | .insert _ _ => inferInstanceAs (Decidable (∀ k ∈ _, ∀ v ∈ _, _))
  | .find _ _ => isTrue trivial
  | .valueAt _ _ => isTrue trivial
  | .write _ _ _ => isTrue trivial
  | .remove _ _ _ => isTrue trivial

instance : DecidablePred s.Stays
  | .insert _ _ => inferInstanceAs (Decidable (∀ k ∈ _, _ → _))
  | .remove _ _ _ => inferInstanceAs (Decidable (_ → _))
  | .find _ _ => isTrue trivial
  | .valueAt _ _ => isTrue trivial
  | .write _ _ _ => isTrue trivial

lemma kept_start : (start : RwState τ κ ν).Kept := fun _ _ h => nomatch h

lemma Kept.wrote (h : s.Kept) (r : ValueRef) (v : ν) : (s.wrote r v).Kept := by
  intro k v' hstored
  show (k, v') ∈ (s.table.assign r v).mMap.entries
  replace hstored : s.storedBy r v k = some v' := hstored
  cases hderef : s.table.deref r with
  | none =>
    rw [storedBy, hderef] at hstored
    rw [RwTable.assign_of_deref_eq_none hderef]
    exact h k v' hstored
  | some e =>
    obtain ⟨key, b⟩ := e
    rw [storedBy, hderef] at hstored
    replace hstored : update s.stored key (some v) k = some v' := hstored
    rw [RwTable.mem_assign hderef]
    by_cases hk : k = key
    · subst hk
      rw [update_self] at hstored
      cases hstored
      exact .inl rfl
    · rw [update_of_ne hk] at hstored
      exact .inr ⟨h k v' hstored, hk⟩

lemma seen_iff : s.Seen ↔ ∀ k r, (k, r) ∈ s.seers → s.table.find k = some r :=
  forall₃_congr fun _ _ _ => RwTable.exists_deref_iff

lemma seen_start : (start : RwState τ κ ν).Seen := fun _ _ h => absurd h not_mem_nil

/-- A reference that is returned leads to its value, so it is enough that the others still do. -/
lemma Seen.returned {key : κ} {r : ValueRef} (h : s.Seen) (hfind : s.table.find key = some r) :
    (s.returned key r).Seen := by
  rw [seen_iff] at h ⊢
  intro k r' hmem
  rcases mem_cons.mp hmem with heq | hmem
  · obtain ⟨rfl, rfl⟩ := Prod.mk.inj heq
    exact hfind
  · exact h k r' hmem

/-- The table holds what the map does, which is what was stored, or the empty value. -/
structure Refines (empty : ν) (s : RwState τ κ ν) (m : κ → Option ν) : Prop where
  mem_iff : ∀ k v, (k, v) ∈ s.table.mMap.entries ↔ m k = some v
  value_eq : ∀ k v, m k = some v → v = (s.stored k).getD empty

lemma refines_start (empty : ν) : Refines empty (start : RwState τ κ ν) fun _ => none where
  mem_iff _ _ := ⟨fun h => absurd h not_mem_nil, fun h => nomatch h⟩
  value_eq _ _ h := nomatch h

/-- What a step is for the map: the lookup happens when the key is found, or added. -/
def label (s : RwState τ κ ν) : RwAct τ κ ν → List (TableOp κ ν)
  | .find _ key => if (s.table.find key).isSome then [.lookup key] else []
  | .insert t _ => (s.pending t).toList.map .lookup
  | .valueAt _ _ => []
  | .write _ r v => (s.table.deref r).toList.map fun e => .store e.1 v
  | .remove _ key _ => [.remove key]

namespace Refines

variable {empty : ν} {s s' : RwState τ κ ν} {m : κ → Option ν}

lemma isSome_iff (h : s.Refines empty m) {key : κ} : (m key).isSome = true ↔ key ∈ s.table.mMap.keys := by
  rw [isSome_iff_exists, SortedVector.mem_keys]
  exact exists_congr fun v => (h.mem_iff key v).symm

lemma update (h : s.Refines empty m) {key : κ} {x : Option ν}
    (hmem : ∀ e, e ∈ s'.table.mMap.entries ↔ e.1 = key ∧ x = some e.2 ∨ e ∈ s.table.mMap.entries ∧ e.1 ≠ key)
    (hother : ∀ k, k ≠ key → s'.stored k = s.stored k) (hvalue : ∀ v ∈ x, v = (s'.stored key).getD empty) :
    s'.Refines empty (update m key x) := by
  constructor
  · intro k v
    rw [hmem, update_apply]
    split_ifs with hk
    · simp [hk]
    · simp [hk, h.mem_iff]
  · intro k v hv
    rw [update_apply] at hv
    split_ifs at hv with hk
    · rw [hk]
      exact hvalue v hv
    · rw [hother k hk]
      exact h.value_eq k v hv

lemma wrote (h : s.Refines empty m) {r : ValueRef} {key : κ} {b : ν} (v : ν)
    (hderef : s.table.deref r = some (key, b)) :
    TableOp.step empty m (.store key v) = some (Function.update m key (some v))
      ∧ (s.wrote r v).Refines empty (Function.update m key (some v)) := by
  have hb := (h.mem_iff key b).mp (RwTable.deref_eq_some_iff.mp hderef).1
  have hstored : s.storedBy r v = Function.update s.stored key (some v) := by rw [storedBy, hderef]
  refine ⟨if_pos (by rw [hb]; rfl), h.update (fun e => (RwTable.mem_assign hderef).trans ?_) ?_ ?_⟩
  · simp [Prod.ext_iff, eq_comm]
  · intro k hk
    show s.storedBy r v k = _
    rw [hstored, update_of_ne hk]
  · rintro _ ⟨⟩
    show v = (s.storedBy r v key).getD empty
    rw [hstored, update_self, getD_some]

lemma removed (h : s.Refines empty m) (key : κ) (addr : ℕ) :
    (s.removed key addr).Refines empty (Function.update m key none) := by
  refine h.update (fun e => mem_removeItem.trans (by simp)) ?_ (fun v hv => nomatch hv)
  exact fun k hk => (update_of_ne hk none s.stored :)

end Refines

/-! ## The steps -/

section Step

variable [DecidableEq τ] (empty : ν)

/-- One step.  A thread that is between the regions does nothing else. -/
def step (s : RwState τ κ ν) : RwAct τ κ ν → Option (RwState τ κ ν)
  | .find t key =>
    if s.pending t = none then
      some (match s.table.find key with
        | some r => s.returned key r
        | none => { s with pending := update s.pending t (some key) })
    else none
  | .insert t addr =>
    (s.pending t).bind fun key => ((s.table.add empty key addr).find key).map fun r =>
      (added empty s t key addr).returned key r
  | .valueAt t idx => if s.pending t = none then some { s with refs := s.table.valueAt idx :: s.refs } else none
  | .write t r v => if s.pending t = none ∧ r ∈ s.refs then some (s.wrote r v) else none
  | .remove t key addr => if s.pending t = none then some (s.removed key addr) else none

/-- **What a step can do.** -/
inductive Move (s : RwState τ κ ν) : RwAct τ κ ν → RwState τ κ ν → Prop
  | found (t : τ) (key : κ) (r : ValueRef) (hfind : s.table.find key = some r) : Move s (.find t key) (s.returned key r)
  | missed (t : τ) (key : κ) (hfind : s.table.find key = none) :
      Move s (.find t key) { s with pending := update s.pending t (some key) }
  | inserted (t : τ) (addr : ℕ) (key : κ) (r : ValueRef) (hpending : s.pending t = some key)
      (hfind : (s.table.add empty key addr).find key = some r) :
      Move s (.insert t addr) ((added empty s t key addr).returned key r)
  | indexed (t : τ) (idx : ℕ) : Move s (.valueAt t idx) { s with refs := s.table.valueAt idx :: s.refs }
  | written (t : τ) (r : ValueRef) (v : ν) : Move s (.write t r v) (s.wrote r v)
  | removed (t : τ) (key : κ) (addr : ℕ) : Move s (.remove t key addr) (s.removed key addr)

variable {empty}

lemma step_move (h : step empty s a = some s') : Move empty s a s' := by
  cases a with
  | find t key =>
    obtain ⟨-, h⟩ := ite_none_right_eq_some.mp h
    cases hfind : s.table.find key with
    | some r =>
      rw [hfind] at h
      cases h
      exact .found t key r hfind
    | none =>
      rw [hfind] at h
      cases h
      exact .missed t key hfind
  | insert t addr =>
    obtain ⟨key, hpending, h⟩ := bind_eq_some_iff.mp h
    obtain ⟨r, hfind, rfl⟩ := map_eq_some_iff.mp h
    exact .inserted t addr key r hpending hfind
  | valueAt t idx =>
    obtain ⟨-, rfl⟩ := ite_some_none_eq_some.mp h
    exact .indexed t idx
  | write t r v =>
    obtain ⟨-, rfl⟩ := ite_some_none_eq_some.mp h
    exact .written t r v
  | remove t key addr =>
    obtain ⟨-, rfl⟩ := ite_some_none_eq_some.mp h
    exact .removed t key addr

/-! ## What is stored stays -/

lemma Kept.step (h : s.Kept) (hkeeps : s.Keeps empty a) (hstep : RwState.step empty s a = some s') : s'.Kept := by
  cases step_move hstep with
  | found | missed | indexed => exact h
  | inserted t addr key r hpending hfind =>
    intro k v hstored
    refine mem_add.mpr ?_
    by_cases hk : k = key
    · subst hk
      exact .inl (Prod.ext rfl (hkeeps k hpending v hstored))
    · exact .inr ⟨h k v hstored, hk⟩
  | written t r v => exact h.wrote r v
  | removed t key addr =>
    intro k v hstored
    replace hstored : update s.stored key none k = some v := hstored
    rw [update_apply] at hstored
    obtain ⟨hk, hstored⟩ := ite_none_left_eq_some.mp hstored
    exact mem_removeItem.mpr ⟨h k v hstored, hk⟩

lemma not_kept_of_step (hkeeps : ¬ s.Keeps empty a) (hstep : RwState.step empty s a = some s') : ¬ s'.Kept := by
  cases step_move hstep with
  | inserted t addr key r hpending hfind =>
    intro hkept
    refine hkeeps fun k hk v hv => ?_
    obtain rfl := Option.some.inj (hk.symm.trans hpending)
    rcases mem_add.mp (hkept k v hv) with heq | ⟨-, hne⟩
    · exact (Prod.mk.inj heq).2
    · exact absurd rfl hne
  | found | missed | indexed | written | removed => exact absurd trivial hkeeps

/-! ## References lead to their values -/

lemma Seen.step (h : s.Seen) (hstays : s.Stays a) (hstep : RwState.step empty s a = some s') : s'.Seen := by
  cases step_move hstep with
  | found t key r hfind => exact h.returned hfind
  | missed | indexed => exact h
  | inserted t addr key r hpending hfind =>
    refine Seen.returned (seen_iff.mpr fun k r' hmem => ?_) hfind
    exact (RwTable.find_add_iff (seen_iff.mp h k r' hmem)).mpr fun hkey => hstays key hpending hkey (k, r') hmem
  | written t r v =>
    refine seen_iff.mpr fun k r' hmem => ?_
    exact (RwTable.find_assign s.table r v k).trans (seen_iff.mp h k r' hmem)
  | removed t key addr =>
    refine seen_iff.mpr fun k r' hmem => ?_
    obtain ⟨hmem, hne⟩ := mem_filter.mp hmem
    have hne : k ≠ key := of_decide_eq_true hne
    exact (RwTable.find_remove_iff (seen_iff.mp h k r' hmem) hne).mpr fun hkey =>
      (hstays hkey (k, r') hmem).resolve_left hne

lemma not_seen_of_step (h : s.Seen) (hstays : ¬ s.Stays a) (hstep : RwState.step empty s a = some s') : ¬ s'.Seen := by
  cases step_move hstep with
  | inserted t addr key r hpending hfind =>
    intro hseen
    refine hstays fun k hk hkey e he => ?_
    cases hk.symm.trans hpending
    have hfind' := seen_iff.mp hseen e.1 e.2 (mem_cons_of_mem _ he)
    exact (RwTable.find_add_iff (seen_iff.mp h e.1 e.2 he)).mp hfind' hkey
  | removed t key addr =>
    intro hseen
    refine hstays fun hkey e he => or_iff_not_imp_left.mpr fun hne => ?_
    have hfind' := seen_iff.mp hseen e.1 e.2 (mem_filter.mpr ⟨he, decide_eq_true hne⟩)
    exact (RwTable.find_remove_iff (seen_iff.mp h e.1 e.2 he) hne).mp hfind' hkey
  | found | missed | indexed | written => exact absurd trivial hstays

/-- **Lookups and stores.**  For every interleaving of any number of threads: a value that was stored under a key stays
until it is overwritten or removed **iff** no lookup adds a key that has one; and besides all references that lookups
have returned lead to the value of their key **iff** also no key comes or goes before one that has such references. -/
theorem lookups_keep_iff {as : List (RwAct τ κ ν)} {u : RwState τ κ ν} (hrun : run (step empty) start as = some u) :
    (Along (step empty) Kept start as ↔ StepsMeet (step empty) (Keeps empty) start as)
      ∧ (Along (step empty) (fun s => s.Kept ∧ s.Seen) start as
        ↔ StepsMeet (step empty) (fun s a => s.Keeps empty a ∧ s.Stays a) start as) := by
  constructor
  · refine along_iff_stepsMeet (I := Kept) (fun s a s' h hkeeps hstep => h.step hkeeps hstep) (fun s h => h) ?_
      kept_start hrun
    exact fun s a s' _ hkeeps hstep => not_kept_of_step hkeeps hstep
  · refine along_iff_stepsMeet (I := fun s => s.Kept ∧ s.Seen) ?_ (fun s h => h) ?_ ⟨kept_start, seen_start⟩ hrun
    · exact fun s a s' h hmeets hstep => ⟨h.1.step hmeets.1 hstep, h.2.step hmeets.2 hstep⟩
    · intro s a s' h hmeets hstep hgood
      by_cases hkeeps : s.Keeps empty a
      · exact not_seen_of_step h.2 (fun hstays => hmeets ⟨hkeeps, hstays⟩) hstep hgood.2
      · exact not_kept_of_step hkeeps hstep hgood.1

/-- Two threads look the same key up for the first time, and both have added it before one of them stores a value. -/
def bothAddFirst : List (RwAct ℕ ℕ ℕ) :=
  [.find 1 7, .find 2 7, .insert 1 100, .insert 2 100, .write 1 ⟨100, 0⟩ 5, .find 2 7]

theorem lookups_keep_bothAddFirst :
    ∃ u, run (step 0) start bothAddFirst = some u ∧ Along (step 0) Kept start bothAddFirst
      ∧ Along (step 0) (fun s => s.Kept ∧ s.Seen) start bothAddFirst := by
  obtain ⟨u, hrun⟩ := isSome_iff_exists.mp (show (run (step 0) start bothAddFirst).isSome = true by decide)
  have hiff := lookups_keep_iff hrun
  exact ⟨u, hrun, hiff.1.mpr (by decide), hiff.2.mpr (by decide)⟩

/-- **The defect**: the second thread adds the key and stores a value while the first one is between the regions. -/
def storeBetween : List (RwAct ℕ ℕ ℕ) := [.find 1 7, .find 2 7, .insert 2 100, .write 2 ⟨100, 0⟩ 5, .insert 1 100]

/-- The lookup of the first thread replaces the value. -/
theorem stored_value_replaced :
    (run (step 0) start storeBetween).map (fun u => (u.stored 7, u.table.mMap.entries)) = some (some 5, [(7, 0)])
      ∧ ¬ Along (step 0) Kept start storeBetween := by
  refine (and_iff_left_of_imp fun hend halong => ?_).mpr (by decide)
  obtain ⟨u, hrun, hu⟩ := map_eq_some_iff.mp hend
  obtain ⟨hstored, hitems⟩ := Prod.mk.inj hu
  have hmem := halong.last hrun 7 5 hstored
  rw [hitems] at hmem
  exact absurd hmem (by decide)

/-! ## Atomic lookups -/

namespace Refines

variable {m : κ → Option ν}

/-- A key that is added has the empty value afterwards, for the map as for the table. -/
lemma added (h : s.Refines empty m) {t : τ} {addr : ℕ} {key : κ} {r : ValueRef} (hpending : s.pending t = some key)
    (hkeeps : s.Keeps empty (.insert t addr)) :
    TableOp.step empty m (.lookup key) = some (Function.update m key (some empty))
      ∧ ((added empty s t key addr).returned key r).Refines empty (Function.update m key (some empty)) := by
  have hstored : (s.stored key).getD empty = empty := by
    cases hv : s.stored key with
    | none => rfl
    | some v => exact hkeeps key hpending v hv
  refine ⟨?_, h.update (fun e => mem_add.trans ?_) (fun k hk => rfl) ?_⟩
  · rw [TableOp.step]
    split_ifs with hsome
    · -- the key is there, with the empty value
      obtain ⟨v, hv⟩ := isSome_iff_exists.mp hsome
      have hempty := (h.value_eq key v hv).trans hstored
      rw [Function.update_eq_self_iff.mpr (by rw [hv, hempty])]
    · rfl
  · simp [Prod.ext_iff, eq_comm]
  · rintro _ ⟨⟩
    exact hstored.symm

lemma move (h : s.Refines empty m) (hkeeps : s.Keeps empty a) (hmove : Move empty s a s') :
    ∃ m', run (TableOp.step empty) m (s.label a) = some m' ∧ s'.Refines empty m' := by
  cases hmove with
  | found t key r hfind =>
    have hsome : (m key).isSome = true := h.isSome_iff.mpr (RwTable.find_eq_some_iff.mp hfind).1
    refine ⟨m, ?_, h.mem_iff, h.value_eq⟩
    rw [label, hfind]
    exact run_cons_eq_some.mpr ⟨m, congrArg some (if_pos hsome), rfl⟩
  | missed t key hfind =>
    refine ⟨m, ?_, h.mem_iff, h.value_eq⟩
    rw [label, hfind]
    rfl
  | inserted t addr key r hpending hfind =>
    obtain ⟨hstep, hrefines⟩ := h.added hpending hkeeps
    refine ⟨_, ?_, hrefines⟩
    rw [label, hpending]
    exact run_cons_eq_some.mpr ⟨_, hstep, rfl⟩
  | indexed t idx => exact ⟨m, rfl, h.mem_iff, h.value_eq⟩
  | written t r v =>
    cases hderef : s.table.deref r with
    | none =>
      refine ⟨m, ?_, ?_⟩
      · rw [label, hderef]
        rfl
      · rw [RwState.wrote, RwTable.assign_of_deref_eq_none hderef, storedBy, hderef]
        exact h
    | some e =>
      obtain ⟨hstep, hrefines⟩ := h.wrote v hderef
      refine ⟨_, ?_, hrefines⟩
      rw [label, hderef]
      exact run_cons_eq_some.mpr ⟨_, hstep, rfl⟩
  | removed t key addr => exact ⟨_, run_cons_eq_some.mpr ⟨_, rfl, rfl⟩, h.removed key addr⟩

end Refines

/-- **A run in which no lookup adds a key that has a value** is one of a map whose lookups are one step. -/
theorem refines_atomic {as : List (RwAct τ κ ν)} {u : RwState τ κ ν} (hrun : run (step empty) start as = some u)
    (hmeets : StepsMeet (step empty) (Keeps empty) start as) :
    ∃ m, run (TableOp.step empty) (fun _ => none) (trace (step empty) label start as) = some m
      ∧ ∀ k v, (k, v) ∈ u.table.mMap.entries ↔ m k = some v := by
  obtain ⟨m, hm, hrefines⟩ :=
    run_of_simulation (fun s a s' m h hkeeps hstep => h.move hkeeps (step_move hstep)) (refines_start empty) hmeets hrun
  exact ⟨m, hm, hrefines.mem_iff⟩

theorem refines_atomic_bothAddFirst :
    ∃ u m, run (step 0) start bothAddFirst = some u
      ∧ run (TableOp.step 0) (fun _ => none) (trace (step 0) label start bothAddFirst) = some m
      ∧ ∀ k v, (k, v) ∈ u.table.mMap.entries ↔ m k = some v := by
  obtain ⟨u, hrun⟩ := isSome_iff_exists.mp (show (run (step 0) start bothAddFirst).isSome = true by decide)
  obtain ⟨m, hm, hitems⟩ := refines_atomic hrun (by decide)
  exact ⟨u, m, hrun, hm, hitems⟩

end Step

end RwState

end Hal
