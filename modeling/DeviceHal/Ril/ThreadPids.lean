import Mathlib.Data.Int.Basic
import Mathlib.Data.List.GetD
import Mathlib.Data.List.Induction
import DeviceHal.Core.Recency

/-!
# Threads and their channels

`threadPid` is an array of `MAX_RIL_CHANNELS` pairs of a thread and a channel; a thread of 0 marks a free
place.  `addThreadPid` searches for the thread or a free place, shifts what is before it down by one and
writes the new pair to the top.  Nothing locks it: the statements here are about calls one after another.

**The defect.**  `RIL_myProxyIdByThread` searches the table for the channel of its thread, logs it, and returns what
the vendor's function answers.  Its search reads one place beyond the array for a thread that is not in a full table
(`lookup_eq_none_iff`).

* **`threadPid_holds_recent`** — the table holds the most recently registered threads, in order.
* `myProxyId_not_latest` — the channel that was registered is not what the caller gets.
-/

namespace Hal

open List Recency

structure ThreadProxyId where
  cid : ℤ
  pthread : ℤ
deriving DecidableEq

namespace ThreadProxyId

def free : ThreadProxyId := ⟨0, 0⟩

end ThreadProxyId

def maxRilChannels (simCount : ℕ) : ℕ :=
  if simCount > 3 then 24 else if simCount > 2 then 18 else if simCount > 1 then 12 else 6

lemma maxRilChannels_pos (simCount : ℕ) : 0 < maxRilChannels simCount := by
  unfold maxRilChannels
  split_ifs <;> decide

def threadPidInit (simCount : ℕ) : List ThreadProxyId :=
  List.replicate (maxRilChannels simCount) .free

/-- Where the search of `addThreadPid` stops: at a free place or at the thread, else after the last. -/
def searchThreadPid (table : List ThreadProxyId) (tid : ℤ) : ℕ :=
  table.findIdx fun e => e.pthread = 0 ∨ e.pthread = tid

/-- The loop that moves the places before `j` down by one, from the last on. -/
def shiftDown : ℕ → List ThreadProxyId → List ThreadProxyId
  | 0, table => table
  | j + 1, table => shiftDown j (table.set (j + 1) (table.getD j .free))

def addThreadPid (table : List ThreadProxyId) (cid tid : ℤ) : List ThreadProxyId :=
  let i := searchThreadPid table tid
  -- the table is full: the last entry goes
  let i := if i = table.length then table.length - 1 else i
  (shiftDown i table).set 0 ⟨cid, tid⟩

/-- The search of `RIL_myProxyIdByThread`.  It reads a place before it tests the bound, so running past
the last place is a read outside the array. -/
def lookupThreadPid : List ThreadProxyId → ℤ → Option ℤ
  | [], _ => none
  | e :: rest, self => if e.pthread ≠ self then lookupThreadPid rest self else some e.cid

/-- `RIL_myProxyIdByThread`: the channel found, which is only logged, and what is returned. -/
def rilMyProxyIdByThread (table : List ThreadProxyId) (self queried : ℤ) : Option (ℤ × ℤ) :=
  (lookupThreadPid table self).map fun cid => (cid, queried)

/-- A sequence of calls of `addThreadPid`, each with its thread and channel. -/
def addThreadPids (table : List ThreadProxyId) (calls : List ThreadProxyId) : List ThreadProxyId :=
  calls.foldl (fun table call => addThreadPid table call.cid call.pthread) table

/-! ## One call -/

/-- What the shifting loop leaves, under the new first entry: the places before `i`, moved down by one,
in place of the one at `i`. -/
lemma shiftDown_set {i : ℕ} {table : List ThreadProxyId} (e : ThreadProxyId) (hi : i < table.length) :
    (shiftDown i table).set 0 e = e :: table.take i ++ table.drop (i + 1) := by
  induction i generalizing table with
  | zero =>
    cases table with
    | nil => simp at hi
    | cons a rest => simp [shiftDown]
  | succ i ih =>
    have hlt : i < table.length := by omega
    have hget : table.getD i .free = table[i] := getD_eq_getElem _ _ hlt
    rw [shiftDown, ih (by rw [length_set]; exact hlt), hget]
    have htake : (table.set (i + 1) table[i]).take i = table.take i :=
      take_set_of_le (Nat.le_succ i)
    have hdrop : (table.set (i + 1) table[i]).drop (i + 1) = table[i] :: table.drop (i + 1 + 1) := by
      rw [drop_eq_getElem_cons (by rw [length_set]; exact hi), getElem_set_self,
        drop_set_of_lt (Nat.lt_succ_self (i + 1))]
    rw [htake, hdrop, take_succ_eq_append_getElem hlt, cons_append, cons_append, append_assoc, singleton_append]

/-- **One call on any array** that has a place: the new pair on top, the places before the one found
moved down by one. -/
lemma addThreadPid_eq {table : List ThreadProxyId} (cid tid : ℤ) (hpos : 0 < table.length) :
    addThreadPid table cid tid
      = ⟨cid, tid⟩ :: table.take (min (searchThreadPid table tid) (table.length - 1))
          ++ table.drop (min (searchThreadPid table tid) (table.length - 1) + 1) := by
  have hle : searchThreadPid table tid ≤ table.length := findIdx_le_length
  have hindex : (if searchThreadPid table tid = table.length then table.length - 1
        else searchThreadPid table tid)
      = min (searchThreadPid table tid) (table.length - 1) := by
    split_ifs <;> omega
  simp only [addThreadPid, hindex]
  exact shiftDown_set _ (by omega)

def withFree (n : ℕ) (entries : List ThreadProxyId) : List ThreadProxyId :=
  entries ++ List.replicate (n - entries.length) .free

variable {entries calls : List ThreadProxyId} {n : ℕ}

lemma length_withFree (hle : entries.length ≤ n) : (withFree n entries).length = n := by
  simp [withFree]
  omega

lemma findIdx_of_used (tid : ℤ) (hused : ∀ e ∈ entries, e.pthread ≠ 0) :
    (entries.findIdx fun e => e.pthread = 0 ∨ e.pthread = tid)
      = entries.findIdx fun e => e.pthread = tid := by
  induction entries with
  | nil => rfl
  | cons e entries ih =>
    have he : e.pthread ≠ 0 := hused e mem_cons_self
    have hih := ih fun e' he' => hused e' (mem_cons_of_mem e he')
    simp only [findIdx_cons, he, false_or, hih]

lemma searchThreadPid_withFree {tid : ℤ} (hused : ∀ e ∈ entries, e.pthread ≠ 0) :
    searchThreadPid (withFree n entries) tid = entries.findIdx fun e => e.pthread = tid := by
  rw [searchThreadPid, withFree, findIdx_append, findIdx_of_used tid hused]
  split_ifs with hlt
  · rfl
  · -- the thread is in none of them: the first free place, if there is one
    have hle : (entries.findIdx fun e => e.pthread = tid) ≤ entries.length := findIdx_le_length
    have hfree : (List.replicate (n - entries.length) ThreadProxyId.free).findIdx
        (fun e => e.pthread = 0 ∨ e.pthread = tid) = 0 := by
      cases n - entries.length with
      | zero => rfl
      | succ k => simp [replicate_succ, findIdx_cons, ThreadProxyId.free]
    omega

/-- **One call, on used places followed by free ones**, is one step of the list of recent entries. -/
lemma addThreadPid_withFree (cid tid : ℤ) (hn : 0 < n)
    (hle : entries.length ≤ n) (hused : ∀ e ∈ entries, e.pthread ≠ 0)
    (hnodup : (entries.map ThreadProxyId.pthread).Nodup) :
    addThreadPid (withFree n entries) cid tid
      = withFree n ((Recency.touch ThreadProxyId.pthread ⟨cid, tid⟩ entries).take n) := by
  have hlength := length_withFree hle
  rw [addThreadPid_eq cid tid (by omega), searchThreadPid_withFree hused, hlength]
  by_cases hmem : tid ∈ entries.map ThreadProxyId.pthread
  · -- the thread is there: its entry is cut out where it stands
    have hfind : (entries.findIdx fun e => e.pthread = tid) < entries.length := by
      obtain ⟨e, he, htid⟩ := mem_map.mp hmem
      exact findIdx_lt_length_of_exists ⟨e, he, decide_eq_true htid⟩
    have hcut := filter_eq_take_append_drop hnodup hmem
    have hlen : (Recency.touch ThreadProxyId.pthread ⟨cid, tid⟩ entries).length = entries.length := by
      rw [Recency.touch, hcut, length_cons, length_append, length_take, length_drop]
      omega
    have hshown : (Recency.touch ThreadProxyId.pthread ⟨cid, tid⟩ entries).take n
        = Recency.touch ThreadProxyId.pthread ⟨cid, tid⟩ entries := take_of_length_le (by omega)
    rw [Nat.min_eq_left (by omega), hshown, withFree, withFree, hlen, take_append_of_le_length (by omega),
      drop_append_of_le_length (by omega), Recency.touch, hcut]
    simp
  · have hfind : (entries.findIdx fun e => e.pthread = tid) = entries.length := by
      refine findIdx_eq_length.mpr fun e he => decide_eq_false fun htid => hmem ?_
      rw [← htid]
      exact mem_map_of_mem he
    rw [hfind, Recency.touch, filter_eq_self_of_notMem hmem]
    by_cases hfull : entries.length = n
    · -- a new thread, and no place: the last entry goes
      obtain ⟨k, rfl⟩ : ∃ k, n = k + 1 := ⟨n - 1, by omega⟩
      have hshown : (⟨cid, tid⟩ :: entries.take k : List ThreadProxyId).length = k + 1 := by
        rw [length_cons, length_take]
        omega
      rw [Nat.min_eq_right (by omega), take_succ_cons, withFree, withFree, hfull, hshown]
      simp [hfull]
    · -- a new thread, and a free place
      have hshown : (⟨cid, tid⟩ :: entries : List ThreadProxyId).length ≤ n := by
        rw [length_cons]
        omega
      have hfree : (List.replicate (n - entries.length) ThreadProxyId.free).drop 1
          = List.replicate (n - (entries.length + 1)) ThreadProxyId.free := by
        rw [drop_replicate]
        congr 1
      rw [Nat.min_eq_left (by omega), take_of_length_le hshown, withFree, withFree,
        length_cons, take_left, ← hfree, ← drop_drop, drop_left]

/-! ## Any sequence of calls -/

/-- The entries that the table is to show. -/
def recentThreads (n : ℕ) (calls : List ThreadProxyId) : List ThreadProxyId :=
  (Recency.latest ThreadProxyId.pthread calls.reverse).take n

lemma recentThreads_sublist (n : ℕ) (calls : List ThreadProxyId) : (recentThreads n calls).Sublist calls.reverse :=
  (take_sublist n _).trans (latest_sublist _)

lemma nodup_recentThreads (n : ℕ) (calls : List ThreadProxyId) :
    ((recentThreads n calls).map ThreadProxyId.pthread).Nodup :=
  (nodup_latest calls.reverse).sublist ((take_sublist n _).map _)

lemma recentThreads_used (hcalls : ∀ call ∈ calls, call.pthread ≠ 0) :
    ∀ e ∈ recentThreads n calls, e.pthread ≠ 0 := by
  intro e he
  exact hcalls e (mem_reverse.mp ((recentThreads_sublist n calls).subset he))

lemma length_recentThreads_le (n : ℕ) (calls : List ThreadProxyId) :
    (recentThreads n calls).length ≤ n := length_take_le n _

lemma recentThreads_concat (n : ℕ) (calls : List ThreadProxyId) (call : ThreadProxyId) :
    recentThreads n (calls ++ [call])
      = (Recency.touch ThreadProxyId.pthread call (recentThreads n calls)).take n := by
  rw [recentThreads, reverse_append, reverse_singleton, singleton_append,
    Recency.latest, take_touch (nodup_latest _)]
  rfl

lemma addThreadPids_eq (hn : 0 < n) (hcalls : ∀ call ∈ calls, call.pthread ≠ 0) :
    addThreadPids (List.replicate n .free) calls = withFree n (recentThreads n calls) := by
  induction calls using List.reverseRecOn with
  | nil => simp [addThreadPids, recentThreads, Recency.latest, withFree]
  | append_singleton calls call ih =>
    have hbefore : ∀ c ∈ calls, c.pthread ≠ 0 := fun c hc => hcalls c (mem_append_left _ hc)
    have hstep := addThreadPid_withFree call.cid call.pthread hn
      (length_recentThreads_le n calls) (recentThreads_used hbefore) (nodup_recentThreads n calls)
    rw [recentThreads_concat, addThreadPids, foldl_concat, ← addThreadPids, ih hbefore, hstep]

/-! ## Looking up a thread -/

lemma lookupThreadPid_eq (table : List ThreadProxyId) (self : ℤ) :
    lookupThreadPid table self = (table.find? fun e => e.pthread = self).map ThreadProxyId.cid := by
  induction table with
  | nil => rfl
  | cons e rest ih =>
    rw [lookupThreadPid, find?_cons]
    by_cases he : e.pthread = self
    · simp [he]
    · simp [he, ih]

lemma lookup_eq_none_iff (table : List ThreadProxyId) (self : ℤ) :
    lookupThreadPid table self = none ↔ self ∉ table.map ThreadProxyId.pthread := by
  rw [lookupThreadPid_eq, Option.map_eq_none_iff, find?_eq_none]
  simp

/-- What the table is after some calls, and what becomes of a lookup. -/
structure HoldsRecent (n : ℕ) (calls table : List ThreadProxyId) : Prop where
  /-- The most recently registered threads, the newest first, then free places. -/
  entries : table = withFree n (recentThreads n calls)
  /-- They are in the order of their latest registrations. -/
  order : (recentThreads n calls).Sublist calls.reverse
  /-- No thread is listed twice. -/
  once : ((recentThreads n calls).map ThreadProxyId.pthread).Nodup
  /-- Each is listed with its latest registration. -/
  latest : ∀ e ∈ recentThreads n calls, calls.reverse.find? (fun c => c.pthread = e.pthread) = some e
  /-- On a full table a new thread takes the place of the one registered longest ago. -/
  evicts : ∀ cid tid, tid ∉ table.map ThreadProxyId.pthread → 0 ∉ table.map ThreadProxyId.pthread →
    addThreadPid table cid tid = ⟨cid, tid⟩ :: table.dropLast
  /-- A thread that is in the table is found with its latest channel; the caller gets the vendor's answer. -/
  lookup : ∀ tid ≠ 0, tid ∈ table.map ThreadProxyId.pthread →
    ∃ call, calls.reverse.find? (fun c => c.pthread = tid) = some call
      ∧ ∀ queried, rilMyProxyIdByThread table tid queried = some (call.cid, queried)

lemma find?_eq_of_mem_recentThreads {e : ThreadProxyId} (he : e ∈ recentThreads n calls) :
    (recentThreads n calls).find? (fun c => c.pthread = e.pthread) = some e
      ∧ calls.reverse.find? (fun c => c.pthread = e.pthread) = some e := by
  have hfind : (recentThreads n calls).find? (fun c => c.pthread = e.pthread) = some e := by
    cases hfound : (recentThreads n calls).find? fun c => c.pthread = e.pthread with
    | none =>
      have hnot := find?_eq_none.mp hfound e he
      simp at hnot
    | some e' =>
      have hkey : e'.pthread = e.pthread := by simpa using find?_some hfound
      exact congrArg some (inj_on_of_nodup_map (nodup_recentThreads n calls)
        (mem_of_find?_eq_some hfound) he hkey)
  refine ⟨hfind, ?_⟩
  rw [← find?_latest, ← take_append_drop n (Recency.latest _ calls.reverse), find?_append]
  rw [recentThreads] at hfind
  rw [hfind]
  rfl

lemma map_pthread_withFree (n : ℕ) (entries : List ThreadProxyId) :
    (withFree n entries).map ThreadProxyId.pthread
      = entries.map ThreadProxyId.pthread ++ List.replicate (n - entries.length) 0 := by
  rw [withFree, map_append, map_replicate]
  rfl

/-- A table without a free place is all entries, and a new thread pushes the last one out. -/
lemma addThreadPid_of_full {tid : ℤ} (cid : ℤ) (hn : 0 < n)
    (hle : entries.length ≤ n) (hused : ∀ e ∈ entries, e.pthread ≠ 0)
    (hnodup : (entries.map ThreadProxyId.pthread).Nodup) (hnew : tid ∉ (withFree n entries).map ThreadProxyId.pthread)
    (hfull : 0 ∉ (withFree n entries).map ThreadProxyId.pthread) :
    addThreadPid (withFree n entries) cid tid = ⟨cid, tid⟩ :: (withFree n entries).dropLast := by
  rw [map_pthread_withFree, mem_append, not_or] at hnew hfull
  have hlen : entries.length = n := by
    by_contra hne
    exact hfull.2 (mem_replicate.mpr ⟨by omega, rfl⟩)
  rw [addThreadPid_withFree cid tid hn hle hused hnodup, Recency.touch, filter_eq_self_of_notMem hnew.1]
  obtain ⟨k, rfl⟩ : ∃ k, n = k + 1 := ⟨n - 1, by omega⟩
  have hshown : (⟨cid, tid⟩ :: entries.take k : List ThreadProxyId).length = k + 1 := by
    rw [length_cons, length_take]
    omega
  rw [take_succ_cons, withFree, withFree, hshown, hlen, dropLast_eq_take]
  simp [hlen]

/-- A thread of the table is found, with the channel it was registered with last. -/
lemma lookup_of_mem {tid : ℤ} (htid : tid ≠ 0)
    (hmem : tid ∈ (withFree n (recentThreads n calls)).map ThreadProxyId.pthread) :
    ∃ call, calls.reverse.find? (fun c => c.pthread = tid) = some call
      ∧ lookupThreadPid (withFree n (recentThreads n calls)) tid = some call.cid := by
  rw [map_pthread_withFree, mem_append] at hmem
  have hshown : tid ∈ (recentThreads n calls).map ThreadProxyId.pthread :=
    hmem.resolve_right fun h => htid (eq_of_mem_replicate h)
  obtain ⟨e, he, rfl⟩ := mem_map.mp hshown
  obtain ⟨hfind, hnewest⟩ := find?_eq_of_mem_recentThreads he
  refine ⟨e, hnewest, ?_⟩
  rw [lookupThreadPid_eq, withFree, find?_append, hfind]
  rfl

/-- **What `threadPid` holds** after any calls with threads other than 0: the most recently registered
threads, at most `MAX_RIL_CHANNELS` of them, in order and each once, with their latest channels, which the search of
`RIL_myProxyIdByThread` finds and the function does not return. -/
theorem threadPid_holds_recent (simCount : ℕ) (calls : List ThreadProxyId)
    (hcalls : ∀ call ∈ calls, call.pthread ≠ 0) :
    HoldsRecent (maxRilChannels simCount) calls (addThreadPids (threadPidInit simCount) calls) := by
  have hn := maxRilChannels_pos simCount
  rw [threadPidInit, addThreadPids_eq hn hcalls]
  generalize maxRilChannels simCount = n at *
  constructor
  case entries => rfl
  case order => exact recentThreads_sublist n calls
  case once => exact nodup_recentThreads n calls
  case latest =>
    intro e he
    exact (find?_eq_of_mem_recentThreads he).2
  case evicts =>
    intro cid tid hnew hfull
    exact addThreadPid_of_full cid hn (length_recentThreads_le n calls) (recentThreads_used hcalls)
      (nodup_recentThreads n calls) hnew hfull
  case lookup =>
    intro tid htid hmem
    obtain ⟨call, hlatest, hlookup⟩ := lookup_of_mem htid hmem
    refine ⟨call, hlatest, fun queried => ?_⟩
    rw [rilMyProxyIdByThread, hlookup, Option.map_some]

/-- Seven threads on a single-SIM device, the second of them registered again at the end. -/
def sevenThreads : List ThreadProxyId :=
  [⟨0, 11⟩, ⟨1, 12⟩, ⟨2, 13⟩, ⟨3, 14⟩, ⟨4, 15⟩, ⟨5, 16⟩, ⟨0, 17⟩, ⟨9, 12⟩]

theorem threadPid_sevenThreads :
    (∀ call ∈ sevenThreads, call.pthread ≠ 0)
      ∧ addThreadPids (threadPidInit 1) sevenThreads
          = [⟨9, 12⟩, ⟨0, 17⟩, ⟨5, 16⟩, ⟨4, 15⟩, ⟨3, 14⟩, ⟨2, 13⟩]
      ∧ HoldsRecent (maxRilChannels 1) sevenThreads (addThreadPids (threadPidInit 1) sevenThreads) :=
  ⟨by decide, by decide, threadPid_holds_recent 1 sevenThreads (by decide)⟩

/-- **The defect**: thread 11 is registered with channel 4, and gets 0 because the vendor's function says so. -/
theorem myProxyId_not_latest :
    addThreadPids (threadPidInit 1) [⟨4, 11⟩] = ⟨4, 11⟩ :: List.replicate 5 .free
      ∧ (rilMyProxyIdByThread (addThreadPids (threadPidInit 1) [⟨4, 11⟩]) 11 0).map Prod.snd = some 0
      ∧ (rilMyProxyIdByThread (addThreadPids (threadPidInit 1) [⟨4, 11⟩]) 11 0).map Prod.snd ≠ some 4 := by
  decide

end Hal
