import Mathlib.Data.Finset.Card
import Mathlib.Data.Fintype.Basic
import DeviceHal.Ril.Timeval

/-!
# The watch table of the event loop

`ril_event.cpp` watches at most eight file descriptors.  What it knows about them is spread over
four places: `watch_table`, the `index` in each event, the `fd_set` that `select` gets, and
`nfds`.  `WatchInv` says how they agree, and there is one lemma per function that changes them.
An `fd_set` has `FD_SETSIZE` bits and `FD_SET` does not check its argument, so that a larger descriptor is
watched without being in the set.

`readyScan` is the part of `processReadReadies` that does not touch a list: which events it queues
and what it does to the table.  It stops early once it has seen as many events as `select`
reported; `readyScan_spec` shows that it misses none, since watched events have different
descriptors.
-/

namespace Hal

open List Option Function

/-- `struct ril_event` without its links, which are `EventLoop.links`.  The ghosts: `initialised`
says that `ril_event_set` was called on it, `timerId` which `ril_timer_add` it was last used for. -/
structure RilEvent where
  fd : ℤ
  index : ℤ
  persist : Bool
  timeout : Timeval
  initialised : Bool
  timerId : Option ℕ
deriving DecidableEq, Inhabited

abbrev maxFdEvents : ℕ := 8

abbrev fdSetSize : ℤ := 1024

/-- `FD_SET`.  There is no bit for a descriptor from `FD_SETSIZE` on, and what is written instead is not said. -/
def fdSet (fds : Finset ℤ) (fd : ℤ) : Finset ℤ := if fd < fdSetSize then insert fd fds else fds

/-- `FD_CLR`, likewise. -/
def fdClr (fds : Finset ℤ) (fd : ℤ) : Finset ℤ := if fd < fdSetSize then fds.erase fd else fds

lemma mem_fdSet {fds : Finset ℤ} {fd x : ℤ} : x ∈ fdSet fds fd ↔ x = fd ∧ x < fdSetSize ∨ x ∈ fds := by
  unfold fdSet
  split_ifs with hfd
  · rw [Finset.mem_insert]
    exact or_congr_left ⟨fun heq => ⟨heq, heq ▸ hfd⟩, And.left⟩
  · refine (or_iff_right ?_).symm
    rintro ⟨rfl, hx⟩
    exact hfd hx

lemma mem_fdClr {fds : Finset ℤ} {fd x : ℤ} (hfds : x ∈ fds → x < fdSetSize) :
    x ∈ fdClr fds fd ↔ x ≠ fd ∧ x ∈ fds := by
  unfold fdClr
  split_ifs with hfd
  · exact Finset.mem_erase
  · refine (and_iff_right_of_imp fun hx => ?_).symm
    rintro rfl
    exact hfd (hfds hx)

/-- The variables of `ril_event.cpp` that watching uses. -/
structure WatchState where
  event : ℕ → RilEvent
  watchTable : Fin maxFdEvents → Option ℕ
  readFds : Finset ℤ
  nfds : ℤ

namespace WatchState

def Watched (w : WatchState) (ev : ℕ) : Prop := ∃ i, w.watchTable i = some ev

/-- The descriptor is that of an event in the table. -/
def FdWatched (w : WatchState) (fd : ℤ) : Prop :=
  ∃ i ev, w.watchTable i = some ev ∧ (w.event ev).fd = fd

instance (w : WatchState) (ev : ℕ) : Decidable (w.Watched ev) :=
  inferInstanceAs (Decidable (∃ _, _))

instance (w : WatchState) (fd : ℤ) : Decidable (w.FdWatched fd) :=
  decidable_of_iff (∃ i, ((w.watchTable i).any fun ev => (w.event ev).fd = fd) = true) <| by
    simp only [FdWatched, Option.any_eq_true, decide_eq_true_eq]

/-- The loop in `removeWatch`: the largest descriptor in the table, or 0. -/
def maxFd (w : WatchState) : ℤ :=
  (List.finRange maxFdEvents).foldl (fun n i =>
    match w.watchTable i with
    | some rev => if (w.event rev).fd > n then (w.event rev).fd else n
    | none => n) 0

def removeWatch (w : WatchState) (ev : ℕ) (index : Fin maxFdEvents) : WatchState :=
  let fd := (w.event ev).fd
  let w := { w with
    watchTable := update w.watchTable index none
    event := update w.event ev { w.event ev with index := -1 }
    readFds := fdClr w.readFds fd }
  if fd + 1 = w.nfds then { w with nfds := w.maxFd + 1 } else w

def rilEventSet (w : WatchState) (ev : ℕ) (fd : ℤ) (persist : Bool) : WatchState :=
  { w with
    event := update w.event ev
      { fd := fd, index := -1, persist := persist, timeout := ⟨0, 0⟩, initialised := true
        timerId := none } }

/-- `ril_event_add`: the first free slot, if there is one. -/
def rilEventAdd (w : WatchState) (ev : ℕ) : WatchState :=
  match (List.finRange maxFdEvents).find? fun i => (w.watchTable i).isNone with
  | none => w
  | some i =>
    let fd := (w.event ev).fd
    { watchTable := update w.watchTable i (some ev)
      event := update w.event ev { w.event ev with index := i }
      readFds := fdSet w.readFds fd
      nfds := if fd ≥ w.nfds then fd + 1 else w.nfds }

def rilEventDel (w : WatchState) (ev : ℕ) : WatchState :=
  if h : (w.event ev).index < 0 ∨ (w.event ev).index ≥ maxFdEvents then w
  else w.removeWatch ev ⟨(w.event ev).index.toNat, by omega⟩

/-- The event in slot `i`, if its descriptor is ready.  For one from `FD_SETSIZE` on `FD_ISSET` reads something else,
which `rfds` may be anything for. -/
def readyAt (w : WatchState) (rfds : Finset ℤ) (i : Fin maxFdEvents) : Option ℕ :=
  (w.watchTable i).filter fun ev => (w.event ev).fd ∈ rfds

/-- The loop of `processReadReadies` over the slots that are left: the events it queues, and the
table after it. -/
def readyScan (w : WatchState) (rfds : Finset ℤ) : List (Fin maxFdEvents) → ℕ → List ℕ × WatchState
  | [], _ => ([], w)
  | i :: is, n =>
    if n = 0 then ([], w)
    else
      match w.readyAt rfds i with
      | none => w.readyScan rfds is n
      | some rev =>
        let w := if (w.event rev).persist = false then w.removeWatch rev i else w
        ((w.readyScan rfds is (n - 1)).1.cons rev, (w.readyScan rfds is (n - 1)).2)

/-! ## The invariant -/

structure WatchInv (w : WatchState) : Prop where
  index_eq : ∀ i ev, w.watchTable i = some ev → (w.event ev).index = i
  slot_eq : ∀ (i : Fin maxFdEvents) ev, (w.event ev).initialised = true →
    (w.event ev).index = i → w.watchTable i = some ev
  watched : ∀ i ev, w.watchTable i = some ev →
    (w.event ev).initialised = true ∧ 0 ≤ (w.event ev).fd
  fd_inj : ∀ i j ev ev', w.watchTable i = some ev → w.watchTable j = some ev' →
    (w.event ev).fd = (w.event ev').fd → i = j
  readFds_iff : ∀ fd, fd ∈ w.readFds ↔ fd < fdSetSize ∧ w.FdWatched fd
  nfds_gt : ∀ i ev, w.watchTable i = some ev → (w.event ev).fd < w.nfds
  /-- an event with a descriptor is not in use as a timer -/
  not_timer : ∀ ev, (w.event ev).initialised = true → 0 ≤ (w.event ev).fd →
    (w.event ev).timerId = none

variable {ev : ℕ} {i : Fin maxFdEvents} {w w' : WatchState} {rfds : Finset ℤ} {is : List (Fin maxFdEvents)}

lemma WatchInv.slot_inj (h : w.WatchInv) {j : Fin maxFdEvents}
    (hi : w.watchTable i = some ev) (hj : w.watchTable j = some ev) : i = j :=
  h.fd_inj i j ev ev hi hj rfl

lemma fd_le_maxFd (w : WatchState) (hi : w.watchTable i = some ev) : (w.event ev).fd ≤ w.maxFd := by
  have hfold : ∀ (is : List (Fin maxFdEvents)) (n : ℤ),
      n ≤ is.foldl (fun n i =>
          match w.watchTable i with
          | some rev => if (w.event rev).fd > n then (w.event rev).fd else n
          | none => n) n
        ∧ ∀ i ∈ is, ∀ ev, w.watchTable i = some ev → (w.event ev).fd ≤ is.foldl (fun n i =>
          match w.watchTable i with
          | some rev => if (w.event rev).fd > n then (w.event rev).fd else n
          | none => n) n := by
    intro is
    induction is with
    | nil => intro n; simp
    | cons j is ih =>
      intro n
      rw [foldl_cons]
      cases hj : w.watchTable j with
      | none =>
        refine ⟨(ih n).1, fun i hi ev hev => ?_⟩
        rcases mem_cons.mp hi with rfl | hi
        · rw [hj] at hev
          cases hev
        · exact (ih n).2 i hi ev hev
      | some rev =>
        dsimp only
        split_ifs with hgt
        · refine ⟨le_trans (le_of_lt hgt) (ih _).1, fun i hi ev hev => ?_⟩
          rcases mem_cons.mp hi with rfl | hi
          · cases hj.symm.trans hev
            exact (ih _).1
          · exact (ih _).2 i hi ev hev
        · refine ⟨(ih n).1, fun i hi ev hev => ?_⟩
          rcases mem_cons.mp hi with rfl | hi
          · cases hj.symm.trans hev
            exact le_trans (not_lt.mp hgt) (ih n).1
          · exact (ih n).2 i hi ev hev
  exact (hfold _ 0).2 i (mem_finRange i) ev hi

lemma removeWatch_fields (w : WatchState) (ev : ℕ) (index : Fin maxFdEvents) :
    (w.removeWatch ev index).watchTable = update w.watchTable index none
      ∧ (w.removeWatch ev index).event
        = update w.event ev { w.event ev with index := -1 }
      ∧ (w.removeWatch ev index).readFds = fdClr w.readFds (w.event ev).fd := by
  simp only [removeWatch]
  split_ifs <;> exact ⟨rfl, rfl, rfl⟩

/-- Events differ in their `index` at most. -/
def SameEvents (w w' : WatchState) : Prop :=
  ∀ ev, (w'.event ev).fd = (w.event ev).fd ∧ (w'.event ev).persist = (w.event ev).persist
    ∧ (w'.event ev).initialised = (w.event ev).initialised
    ∧ (w'.event ev).timeout = (w.event ev).timeout ∧ (w'.event ev).timerId = (w.event ev).timerId

section SameEvents

variable {w w' : WatchState} (h : SameEvents w w') (ev : ℕ)

include h

lemma SameEvents.fd_eq : (w'.event ev).fd = (w.event ev).fd := (h ev).1

lemma SameEvents.initialised_eq : (w'.event ev).initialised = (w.event ev).initialised := (h ev).2.2.1

lemma SameEvents.timeout_eq : (w'.event ev).timeout = (w.event ev).timeout := (h ev).2.2.2.1

lemma SameEvents.timerId_eq : (w'.event ev).timerId = (w.event ev).timerId := (h ev).2.2.2.2

end SameEvents

lemma SameEvents.refl (w : WatchState) : SameEvents w w := fun _ => ⟨rfl, rfl, rfl, rfl, rfl⟩

lemma SameEvents.trans {w'' : WatchState} (h : SameEvents w w') (h' : SameEvents w' w'') : SameEvents w w'' := by
  intro ev
  rcases h ev with ⟨h₁, h₂, h₃, h₄, h₅⟩
  rcases h' ev with ⟨h₁', h₂', h₃', h₄', h₅'⟩
  exact ⟨h₁'.trans h₁, h₂'.trans h₂, h₃'.trans h₃, h₄'.trans h₄, h₅'.trans h₅⟩

lemma SameEvents.not_timer (h : SameEvents w w') (hinv : w.WatchInv) (ev : ℕ) :
    (w'.event ev).initialised = true → 0 ≤ (w'.event ev).fd → (w'.event ev).timerId = none := by
  rw [h.fd_eq ev, h.initialised_eq ev, h.timerId_eq ev]
  exact hinv.not_timer ev

lemma sameEvents_index (w : WatchState) (ev : ℕ) (index : ℤ) :
    SameEvents w { w with event := update w.event ev { w.event ev with index := index } } := by
  intro ev'
  by_cases heq : ev' = ev
  · subst heq
    simp
  · simp [update_of_ne heq]

lemma removeWatch_sameEvents (w : WatchState) (ev : ℕ) (index : Fin maxFdEvents) :
    SameEvents w (w.removeWatch ev index) := by
  intro ev'
  rw [(removeWatch_fields w ev index).2.1]
  exact sameEvents_index w ev (-1) ev'

lemma removeWatch_table_iff (w : WatchState) (ev : ℕ) (index i : Fin maxFdEvents) (ev' : ℕ) :
    (w.removeWatch ev index).watchTable i = some ev' ↔ i ≠ index ∧ w.watchTable i = some ev' := by
  rw [(removeWatch_fields w ev index).1]
  by_cases hi : i = index
  · subst hi
    simp
  · simp [hi]

variable {index : Fin maxFdEvents}

lemma removeWatch_nfds_gt (h : w.WatchInv) {ev' : ℕ}
    (hi : (w.removeWatch ev index).watchTable i = some ev') :
    ((w.removeWatch ev index).event ev').fd < (w.removeWatch ev index).nfds := by
  have hold := ((removeWatch_table_iff w ev index i ev').mp hi).2
  have hlt := h.nfds_gt i ev' hold
  by_cases hmax : (w.event ev).fd + 1 = w.nfds
  · simp only [removeWatch, if_pos hmax] at hi ⊢
    have hle := fd_le_maxFd { w with
      watchTable := update w.watchTable index none
      event := update w.event ev { w.event ev with index := -1 }
      readFds := fdClr w.readFds (w.event ev).fd } hi
    exact Int.lt_add_one_of_le hle
  · rw [(removeWatch_sameEvents w ev index).fd_eq ev']
    simp only [removeWatch, if_neg hmax]
    exact hlt

lemma removeWatch_fdWatched_iff (h : w.WatchInv)
    (hev : w.watchTable index = some ev) {fd : ℤ} :
    (w.removeWatch ev index).FdWatched fd ↔ fd ≠ (w.event ev).fd ∧ w.FdWatched fd := by
  have htable := removeWatch_table_iff w ev index
  have hfields := removeWatch_sameEvents w ev index
  constructor
  · rintro ⟨i, ev', hi, hfd⟩
    rcases (htable i ev').mp hi with ⟨hne, hold⟩
    rw [hfields.fd_eq ev'] at hfd
    refine ⟨?_, i, ev', hold, hfd⟩
    rintro rfl
    exact hne (h.fd_inj i index ev' ev hold hev hfd)
  · rintro ⟨hne, i, ev', hi, rfl⟩
    refine ⟨i, ev', (htable i ev').mpr ⟨?_, hi⟩, hfields.fd_eq ev'⟩
    rintro rfl
    cases hi.symm.trans hev
    exact hne rfl

/-- **`removeWatch`** of an event from its slot. -/
lemma WatchInv.removeWatch (h : w.WatchInv)
    (hev : w.watchTable index = some ev) : (w.removeWatch ev index).WatchInv := by
  have htable := removeWatch_table_iff w ev index
  have hfields := removeWatch_sameEvents w ev index
  have hevent := (removeWatch_fields w ev index).2.1
  -- whoever stays is another event
  have hother : ∀ {i ev'}, i ≠ index → w.watchTable i = some ev' → ev' ≠ ev := by
    rintro i ev' hi hold rfl
    exact hi (h.slot_inj hold hev)
  constructor
  case index_eq =>
    intro i ev' hi
    rcases (htable i ev').mp hi with ⟨hne, hold⟩
    rw [hevent, update_of_ne (hother hne hold)]
    exact h.index_eq i ev' hold
  case slot_eq =>
    intro i ev' hinit hidx
    rw [htable]
    rw [hfields.initialised_eq ev'] at hinit
    rw [hevent] at hidx
    by_cases heq : ev' = ev
    · subst heq
      rw [update_self] at hidx
      dsimp only at hidx
      omega
    · rw [update_of_ne heq] at hidx
      have hold := h.slot_eq i ev' hinit hidx
      refine ⟨?_, hold⟩
      rintro rfl
      exact heq (Option.some.inj (hold.symm.trans hev))
  case watched =>
    intro i ev' hi
    rw [hfields.fd_eq ev', hfields.initialised_eq ev']
    exact h.watched i ev' ((htable i ev').mp hi).2
  case fd_inj =>
    intro i j e e' hi hj hfd
    rw [hfields.fd_eq e, hfields.fd_eq e'] at hfd
    exact h.fd_inj i j e e' ((htable i e).mp hi).2 ((htable j e').mp hj).2 hfd
  case readFds_iff =>
    intro fd
    have hsmall : fd ∈ w.readFds → fd < fdSetSize := fun hmem => ((h.readFds_iff fd).mp hmem).1
    rw [(removeWatch_fields w ev index).2.2, mem_fdClr hsmall, h.readFds_iff, removeWatch_fdWatched_iff h hev]
    exact and_left_comm
  case nfds_gt =>
    exact fun i ev' hi => removeWatch_nfds_gt h hi
  case not_timer => exact hfields.not_timer h

/-- Changing an event that is not in the table, as long as it gets no index of a slot. -/
lemma WatchInv.update_event (h : w.WatchInv) (hev : ¬ w.Watched ev)
    {e : RilEvent} (hindex : ∀ i : Fin maxFdEvents, e.index ≠ i) (htimer : 0 ≤ e.fd → e.timerId = none) :
    ({ w with event := update w.event ev e } : WatchState).WatchInv := by
  have hother : ∀ {i ev'}, w.watchTable i = some ev' → ev' ≠ ev := by
    rintro i ev' hi rfl
    exact hev ⟨i, hi⟩
  have hsame : ∀ {i ev'}, w.watchTable i = some ev' →
      update w.event ev e ev' = w.event ev' := fun hi =>
    update_of_ne (hother hi) e w.event
  constructor
  case index_eq =>
    intro i ev' hi
    show (update w.event ev e ev').index = i
    rw [hsame hi]
    exact h.index_eq i ev' hi
  case slot_eq =>
    intro i ev' hinit hidx
    dsimp only at hinit hidx
    by_cases heq : ev' = ev
    · subst heq
      rw [update_self] at hidx
      exact absurd hidx (hindex i)
    · rw [update_of_ne heq] at hinit hidx
      exact h.slot_eq i ev' hinit hidx
  case watched =>
    intro i ev' hi
    dsimp only at hi ⊢
    rw [hsame hi]
    exact h.watched i ev' hi
  case fd_inj =>
    intro i j e₁ e₂ hi hj hfd
    dsimp only at hi hj hfd
    rw [hsame hi, hsame hj] at hfd
    exact h.fd_inj i j e₁ e₂ hi hj hfd
  case readFds_iff =>
    intro fd
    rw [h.readFds_iff]
    refine and_congr_right fun _ => ?_
    constructor
    · rintro ⟨i, ev', hi, hfd⟩
      exact ⟨i, ev', hi, by dsimp only; rw [hsame hi]; exact hfd⟩
    · rintro ⟨i, ev', hi, hfd⟩
      dsimp only at hi hfd
      rw [hsame hi] at hfd
      exact ⟨i, ev', hi, hfd⟩
  case nfds_gt =>
    intro i ev' hi
    dsimp only at hi ⊢
    rw [hsame hi]
    exact h.nfds_gt i ev' hi
  case not_timer =>
    intro ev' hinit hfd
    dsimp only at hinit hfd ⊢
    by_cases heq : ev' = ev
    · subst heq
      rw [update_self] at hfd ⊢
      exact htimer hfd
    · rw [update_of_ne heq] at hinit hfd ⊢
      exact h.not_timer ev' hinit hfd

/-- **`ril_event_set`** of an event that is not in the table. -/
lemma WatchInv.rilEventSet (h : w.WatchInv) (hev : ¬ w.Watched ev) (fd : ℤ)
    (persist : Bool) : (w.rilEventSet ev fd persist).WatchInv := by
  refine h.update_event hev (fun i => ?_) fun _ => rfl
  dsimp only
  omega

/-- **`ril_event_del`** of any event that was set. -/
lemma WatchInv.rilEventDel (h : w.WatchInv) (hinit : (w.event ev).initialised = true) :
    (w.rilEventDel ev).WatchInv ∧ SameEvents w (w.rilEventDel ev)
      ∧ ∀ i ev', (w.rilEventDel ev).watchTable i = some ev' ↔ ev' ≠ ev ∧ w.watchTable i = some ev' := by
  unfold WatchState.rilEventDel
  split_ifs with hrange
  · refine ⟨h, SameEvents.refl w, fun i ev' => ⟨fun hi => ⟨?_, hi⟩, fun hi => hi.2⟩⟩
    rintro rfl
    have := h.index_eq i ev' hi
    omega
  · have hslot := h.slot_eq ⟨(w.event ev).index.toNat, by omega⟩ ev hinit
      (by simp only [not_or, not_lt] at hrange; simp [hrange.1])
    refine ⟨h.removeWatch hslot, removeWatch_sameEvents w ev _, fun i ev' => ?_⟩
    rw [removeWatch_table_iff]
    constructor
    · rintro ⟨hne, hi⟩
      refine ⟨?_, hi⟩
      rintro rfl
      exact hne (h.slot_inj hi hslot)
    · rintro ⟨hne, hi⟩
      refine ⟨?_, hi⟩
      rintro rfl
      exact hne (Option.some.inj (hi.symm.trans hslot))

lemma rilEventAdd_eq (hroom : ∃ i, w.watchTable i = none) (ev : ℕ) :
    ∃ i, w.watchTable i = none ∧ w.rilEventAdd ev = {
      watchTable := update w.watchTable i (some ev)
      event := update w.event ev { w.event ev with index := i }
      readFds := fdSet w.readFds (w.event ev).fd
      nfds := if (w.event ev).fd ≥ w.nfds then (w.event ev).fd + 1 else w.nfds } := by
  rcases hroom with ⟨i, hi⟩
  have hsome : ((List.finRange maxFdEvents).find? fun i => (w.watchTable i).isNone).isSome := by
    rw [find?_isSome]
    exact ⟨i, mem_finRange i, by simp [hi]⟩
  rcases isSome_iff_exists.mp hsome with ⟨j, hj⟩
  exact ⟨j, by simpa using find?_some hj, by simp only [WatchState.rilEventAdd, hj]⟩

lemma insert_table_iff (hnone : w.watchTable i = none) (ev : ℕ) (j : Fin maxFdEvents) (ev' : ℕ) :
    update w.watchTable i (some ev) j = some ev'
      ↔ (j = i ∧ ev' = ev) ∨ w.watchTable j = some ev' := by
  by_cases hji : j = i
  · subst hji
    simp [hnone, eq_comm]
  · simp [hji]

lemma insert_fdWatched_iff
    (htable : ∀ j ev', w'.watchTable j = some ev' ↔ (j = i ∧ ev' = ev) ∨ w.watchTable j = some ev')
    (hfds : ∀ ev', (w'.event ev').fd = (w.event ev').fd) {fd : ℤ} :
    w'.FdWatched fd ↔ fd = (w.event ev).fd ∨ w.FdWatched fd := by
  constructor
  · rintro ⟨j, ev', hj, hfd'⟩
    have hfdeq := (hfds ev').symm.trans hfd'
    rcases (htable j ev').mp hj with ⟨_, rfl⟩ | hj
    · exact .inl hfdeq.symm
    · exact .inr ⟨j, ev', hj, hfdeq⟩
  · rintro (rfl | ⟨j, ev', hj, hfd'⟩)
    · exact ⟨i, ev, (htable i ev).mpr (.inl ⟨rfl, rfl⟩), hfds ev⟩
    · exact ⟨j, ev', (htable j ev').mpr (.inr hj), (hfds ev').trans hfd'⟩

/-- **`ril_event_add`** of an event that is not in the table, with a new descriptor, while there is
room. -/
lemma WatchInv.rilEventAdd (h : w.WatchInv) (hev : ¬ w.Watched ev)
    (hinit : (w.event ev).initialised = true) (hfd : 0 ≤ (w.event ev).fd)
    (hfree : ¬ w.FdWatched (w.event ev).fd) (hroom : ∃ i, w.watchTable i = none) :
    (w.rilEventAdd ev).WatchInv ∧ SameEvents w (w.rilEventAdd ev) := by
  rcases rilEventAdd_eq hroom ev with ⟨i, hnone, heq⟩
  have htable := insert_table_iff hnone ev
  have hsame := sameEvents_index w ev i
  rw [heq]
  refine ⟨?_, hsame⟩
  constructor
  case index_eq =>
    intro j ev' hj
    dsimp only at hj ⊢
    rcases (htable j ev').mp hj with ⟨rfl, rfl⟩ | hj
    · rw [update_self]
    · have hne : ev' ≠ ev := fun hc => hev ⟨j, hc ▸ hj⟩
      rw [update_of_ne hne]
      exact h.index_eq j ev' hj
  case slot_eq =>
    intro j ev' hinit' hidx
    dsimp only at hinit' hidx ⊢
    rw [htable]
    by_cases heq : ev' = ev
    · subst heq
      rw [update_self] at hidx
      dsimp only at hidx
      exact .inl ⟨Fin.ext (by omega), rfl⟩
    · rw [update_of_ne heq] at hinit' hidx
      exact .inr (h.slot_eq j ev' hinit' hidx)
  case watched =>
    intro j ev' hj
    rw [hsame.fd_eq ev', hsame.initialised_eq ev']
    rcases (htable j ev').mp hj with ⟨_, rfl⟩ | hj
    · exact ⟨hinit, hfd⟩
    · exact h.watched j ev' hj
  case fd_inj =>
    intro j k e e' hj hk hfdeq
    rw [hsame.fd_eq e, hsame.fd_eq e'] at hfdeq
    rcases (htable j e).mp hj with ⟨hji, rfl⟩ | hjold <;>
      rcases (htable k e').mp hk with ⟨hki, rfl⟩ | hkold
    · exact hji.trans hki.symm
    · exact absurd ⟨k, e', hkold, hfdeq.symm⟩ hfree
    · exact absurd ⟨j, e, hjold, hfdeq⟩ hfree
    · exact h.fd_inj j k e e' hjold hkold hfdeq
  case readFds_iff =>
    intro fd
    rw [mem_fdSet, h.readFds_iff, and_comm (a := fd = _), ← and_or_left]
    refine and_congr_right fun _ => (insert_fdWatched_iff htable ?_).symm
    exact hsame.fd_eq
  case nfds_gt =>
    intro j ev' hj
    rw [hsame.fd_eq ev']
    dsimp only
    rcases (htable j ev').mp hj with ⟨_, rfl⟩ | hj
    · split_ifs <;> omega
    · have := h.nfds_gt j ev' hj
      split_ifs <;> omega
  case not_timer => exact hsame.not_timer h

/-! ## Descriptors of the set -/

def InFdSet (w : WatchState) : Prop := ∀ i ev, w.watchTable i = some ev → (w.event ev).fd < fdSetSize

lemma InFdSet.of_table (h : w.InFdSet)
    (htable : ∀ i ev, w'.watchTable i = some ev → w.watchTable i = some ev ∧ (w'.event ev).fd = (w.event ev).fd) :
    w'.InFdSet := by
  intro i ev hi
  obtain ⟨hold, hfd⟩ := htable i ev hi
  exact hfd ▸ h i ev hold

lemma InFdSet.update_event (h : w.InFdSet) (hev : ¬ w.Watched ev) (e : RilEvent) :
    ({ w with event := update w.event ev e } : WatchState).InFdSet := by
  refine h.of_table fun i ev' hi => ⟨hi, ?_⟩
  have hne : ev' ≠ ev := by
    rintro rfl
    exact hev ⟨i, hi⟩
  dsimp only
  rw [update_of_ne hne]

lemma InFdSet.rilEventAdd (h : w.InFdSet) (hroom : ∃ i, w.watchTable i = none)
    (hfd : (w.event ev).fd < fdSetSize) : (w.rilEventAdd ev).InFdSet := by
  obtain ⟨i, hnone, heq⟩ := rilEventAdd_eq hroom ev
  rw [heq]
  intro j ev' hj
  rw [(sameEvents_index w ev i).fd_eq ev']
  rcases (insert_table_iff hnone ev j ev').mp hj with ⟨-, rfl⟩ | hj
  · exact hfd
  · exact h j ev' hj

/-! ## Readiness -/

lemma readyAt_eq_some : w.readyAt rfds i = some ev ↔ w.watchTable i = some ev ∧ (w.event ev).fd ∈ rfds := by
  simp [readyAt, filter_eq_some_iff]

lemma readyAt_removeWatch (w : WatchState) (rfds : Finset ℤ) (rev : ℕ) {j : Fin maxFdEvents}
    (hji : j ≠ i) : (w.removeWatch rev i).readyAt rfds j = w.readyAt rfds j := by
  refine Option.ext fun ev => ?_
  simp only [readyAt_eq_some, removeWatch_table_iff, (removeWatch_sameEvents w rev i).fd_eq ev]
  exact ⟨fun h => ⟨h.1.2, h.2⟩, fun h => ⟨⟨hji, h.1⟩, h.2⟩⟩

/-- What a scan over the slots `is` does: it queues the ready events in the order of their slots,
and takes the non-persistent ones of them out. -/
structure Scanned (w : WatchState) (rfds : Finset ℤ) (is : List (Fin maxFdEvents))
    (queued : List ℕ) (w' : WatchState) : Prop where
  queued_eq : queued = is.filterMap (w.readyAt rfds)
  inv : w'.WatchInv
  same : SameEvents w w'
  table_iff : ∀ i ev, w'.watchTable i = some ev ↔ w.watchTable i = some ev
    ∧ ¬ (i ∈ is ∧ (w.event ev).fd ∈ rfds ∧ (w.event ev).persist = false)

lemma Scanned.of_nil (h : w.WatchInv) (hnil : is.filterMap (w.readyAt rfds) = []) : Scanned w rfds is [] w := by
  refine ⟨hnil.symm, h, SameEvents.refl w, fun j ev => ⟨fun hj => ⟨hj, ?_⟩, fun hj => hj.1⟩⟩
  rintro ⟨hmem, hfd, _⟩
  have hready := readyAt_eq_some.mpr ⟨hj, hfd⟩
  exact not_mem_nil (hnil ▸ mem_filterMap.mpr ⟨j, hmem, hready⟩)

lemma Scanned.cons_none {queued : List ℕ} (h : Scanned w rfds is queued w')
    (hready : w.readyAt rfds i = none) : Scanned w rfds (i :: is) queued w' := by
  refine ⟨by rw [filterMap_cons_none hready]; exact h.queued_eq, h.inv, h.same, fun j ev => ?_⟩
  rw [h.table_iff]
  refine and_congr_right fun hj => not_congr ?_
  constructor
  · rintro ⟨hmem, hrest⟩
    exact ⟨mem_cons_of_mem i hmem, hrest⟩
  · rintro ⟨hmem, hfd, hpersist⟩
    rcases mem_cons.mp hmem with rfl | hmem
    · rw [readyAt_eq_some.mpr ⟨hj, hfd⟩] at hready
      cases hready
    · exact ⟨hmem, hfd, hpersist⟩

/-- What one ready slot does to the table: its event leaves, unless it is persistent. -/
structure Taken (w : WatchState) (i : Fin maxFdEvents) (rev : ℕ) (w' : WatchState) : Prop where
  inv : w'.WatchInv
  same : SameEvents w w'
  table_iff : ∀ j ev, w'.watchTable j = some ev ↔
    w.watchTable j = some ev ∧ ¬ (j = i ∧ (w.event rev).persist = false)
  readyAt_eq : ∀ rfds, ∀ j ≠ i, w'.readyAt rfds j = w.readyAt rfds j

variable {rev : ℕ}

lemma WatchInv.taken (h : w.WatchInv) (hrev : w.watchTable i = some rev) :
    Taken w i rev (if (w.event rev).persist = false then w.removeWatch rev i else w) := by
  split_ifs with hpersist
  · refine ⟨h.removeWatch hrev, removeWatch_sameEvents w rev i, fun j ev => ?_, ?_⟩
    · rw [removeWatch_table_iff]
      simp [hpersist, and_comm]
    · exact fun rfds j hj => readyAt_removeWatch w rfds rev hj
  · exact ⟨h, SameEvents.refl w, fun j ev => by simp [hpersist], fun _ _ _ => rfl⟩

lemma Taken.filterMap_readyAt (ht : Taken w i rev w') (hi : i ∉ is) (rfds : Finset ℤ) :
    is.filterMap (w'.readyAt rfds) = is.filterMap (w.readyAt rfds) :=
  filterMap_congr fun j hj => ht.readyAt_eq rfds j fun heq => hi (heq ▸ hj)

lemma Scanned.cons_some {w₁ : WatchState} {queued : List ℕ} (hi : i ∉ is)
    (hready : w.readyAt rfds i = some rev) (ht : Taken w i rev w₁) (h : Scanned w₁ rfds is queued w') :
    Scanned w rfds (i :: is) (rev :: queued) w' := by
  rcases readyAt_eq_some.mp hready with ⟨hrev, hrevfd⟩
  refine ⟨?_, h.inv, ht.same.trans h.same, fun j ev => ?_⟩
  · rw [filterMap_cons_some hready, h.queued_eq, ht.filterMap_readyAt hi]
  · rw [h.table_iff, ht.table_iff, (ht.same ev).1, (ht.same ev).2.1, and_assoc]
    refine and_congr_right fun hj => ?_
    constructor
    · rintro ⟨hthis, hlater⟩ ⟨hmem, hfd, hpersist⟩
      rcases mem_cons.mp hmem with rfl | hmem
      · cases hj.symm.trans hrev
        exact hthis ⟨rfl, hpersist⟩
      · exact hlater ⟨hmem, hfd, hpersist⟩
    · intro hnot
      refine ⟨?_, fun hlater => hnot ⟨mem_cons_of_mem i hlater.1, hlater.2⟩⟩
      rintro ⟨rfl, hpersist⟩
      cases hj.symm.trans hrev
      exact hnot ⟨mem_cons_self, hrevfd, hpersist⟩

/-- The scan, as long as `n` counts every event that is ready in the slots left. -/
lemma scanned_readyScan {is : List (Fin maxFdEvents)} {w : WatchState} (n : ℕ) (h : w.WatchInv) (hnodup : is.Nodup)
    (hlen : (is.filterMap (w.readyAt rfds)).length ≤ n) :
    Scanned w rfds is (w.readyScan rfds is n).1 (w.readyScan rfds is n).2 := by
  induction is generalizing w n with
  | nil => exact Scanned.of_nil h rfl
  | cons i is ih =>
    rcases nodup_cons.mp hnodup with ⟨hi, hnodup'⟩
    rw [readyScan]
    by_cases hn : n = 0
    · rw [if_pos hn]
      exact Scanned.of_nil h (length_eq_zero_iff.mp (by omega))
    rw [if_neg hn]
    cases hready : w.readyAt rfds i with
    | none =>
      rw [filterMap_cons_none hready] at hlen
      exact (ih n h hnodup' hlen).cons_none hready
    | some rev =>
      have ht := h.taken (readyAt_eq_some.mp hready).1
      rw [filterMap_cons_some hready, length_cons] at hlen
      refine Scanned.cons_some hi hready ht (ih (n - 1) ht.inv hnodup' ?_)
      rw [ht.filterMap_readyAt hi]
      omega

/-- Events in different slots have different descriptors, so there are at most as many ready ones
as ready descriptors. -/
lemma length_ready_le (h : w.WatchInv) (rfds : Finset ℤ) :
    ((List.finRange maxFdEvents).filterMap (w.readyAt rfds)).length ≤ rfds.card := by
  have hfds : ((List.finRange maxFdEvents).filterMap (w.readyAt rfds)).map (fun ev => (w.event ev).fd)
      = (List.finRange maxFdEvents).filterMap
          fun i => (w.readyAt rfds i).map fun ev => (w.event ev).fd := by
    rw [map_filterMap]
  have hnodup : ((List.finRange maxFdEvents).filterMap
      fun i => (w.readyAt rfds i).map fun ev => (w.event ev).fd).Nodup := by
    refine (nodup_finRange maxFdEvents).filterMap ?_
    intro i j fd hi hj
    simp only [mem_def, map_eq_some_iff, readyAt_eq_some] at hi hj
    rcases hi with ⟨ev, ⟨hi, _⟩, rfl⟩
    rcases hj with ⟨ev', ⟨hj, _⟩, hfd⟩
    exact h.fd_inj i j ev ev' hi hj hfd.symm
  rw [← length_map (f := fun ev => (w.event ev).fd), hfds, ← toFinset_card_of_nodup hnodup]
  refine Finset.card_le_card fun fd hfd => ?_
  simp only [List.mem_toFinset, List.mem_filterMap, Option.map_eq_some_iff, readyAt_eq_some] at hfd
  rcases hfd with ⟨_, _, ev, ⟨_, hmem⟩, rfl⟩
  exact hmem

/-- **`processReadReadies`, the table's side.**  With the count that `select` returned, the scan over
all slots queues every ready event. -/
theorem readyScan_spec (h : w.WatchInv) (rfds : Finset ℤ) :
    Scanned w rfds (List.finRange maxFdEvents)
      (w.readyScan rfds (List.finRange maxFdEvents) rfds.card).1
      (w.readyScan rfds (List.finRange maxFdEvents) rfds.card).2 :=
  scanned_readyScan _ h (nodup_finRange _) (length_ready_le h rfds)

lemma Scanned.queued {queued : List ℕ} (h : w.WatchInv) (hs : Scanned w rfds (List.finRange maxFdEvents) queued w') :
    queued.Nodup ∧ ∀ ev, ev ∈ queued ↔ w.Watched ev ∧ (w.event ev).fd ∈ rfds := by
  rw [hs.queued_eq]
  constructor
  · refine (nodup_finRange maxFdEvents).filterMap ?_
    intro i j ev hi hj
    exact h.slot_inj (readyAt_eq_some.mp hi).1 (readyAt_eq_some.mp hj).1
  · intro ev
    simp only [mem_filterMap, mem_finRange, true_and, readyAt_eq_some]
    exact ⟨fun ⟨i, hi, hfd⟩ => ⟨⟨i, hi⟩, hfd⟩, fun ⟨⟨i, hi⟩, hfd⟩ => ⟨i, hi, hfd⟩⟩

end WatchState

end Hal
