import DeviceHal.Ril.EventLoop

/-!
# The event loop's pointers implement its lists

`EventLoop.Abs s a` says that the links of `s` form two rings, through the timers and through the
pending events of `a`, and that everything else agrees.  Every action of the code keeps it, and is
the same action of the lists: `step_abs`.

The loops of the code walk a list while they change it; `expire_spec`, `findPlace_spec` and
`readReadies_spec` say what they do, by induction on the list that is left.  Their fuel is the number
of insertions so far, which no list exceeds.
-/

namespace Hal

open List Option Function

namespace EventLoop

/-- The two lists have nothing in common, sentinels included. -/
def Apart (timers pending : List ℕ) : Prop :=
  ∀ x ∈ timerList :: timers, x ∉ pendingList :: pending

/-- The code's state and the lists it stands for. -/
structure Abs (s : EventLoop) (a : ListLoop) : Prop where
  watch_eq : a.watch = s.watch
  phase_eq : a.phase = s.phase
  log_eq : a.log = s.log
  timers : Ring s.links timerList a.timers
  pending : Ring s.links pendingList a.pending
  fuel : a.timers.length + a.pending.length ≤ s.inserts
  cursor : a.phase = .firing → s.cursor = a.pending.headD pendingList

variable {a : ListLoop} {ev : ℕ} {s s' : EventLoop}

lemma address_of_mem (h : a.Inv) (hev : ev ∈ a.timers ++ a.pending) : 3 ≤ ev := h.address ev (h.initialised ev hev)

lemma ne_timerList (haddr : 3 ≤ ev) : ev ≠ timerList := by
  rintro rfl
  exact absurd haddr (by decide)

lemma ne_pendingList (haddr : 3 ≤ ev) : ev ≠ pendingList := by
  rintro rfl
  exact absurd haddr (by decide)

lemma apart_of_inv (h : a.Inv) : Apart a.timers a.pending := by
  have hnodup := nodup_append.mp h.nodup
  intro x hx hx'
  rcases mem_cons.mp hx with rfl | hx <;> rcases mem_cons.mp hx' with heq | hx'
  · exact absurd heq (by decide)
  · exact ne_timerList (address_of_mem h (mem_append_right a.timers hx')) rfl
  · exact ne_pendingList (address_of_mem h (mem_append_left a.pending hx)) heq
  · exact hnodup.2.2 x hx x hx' rfl

lemma Abs.timers_eq (h : Abs s a) : s.timers = a.timers :=
  h.timers.nodes_eq (by have := h.fuel; omega)

lemma Abs.pending_eq (h : Abs s a) : s.pending = a.pending :=
  h.pending.nodes_eq (by have := h.fuel; omega)

lemma dropWhile_congr {β : Type*} {p q : β → Bool} {l : List β} (h : ∀ x ∈ l, p x = q x) :
    l.dropWhile p = l.dropWhile q := by
  induction l with
  | nil => rfl
  | cons x l ih =>
    rw [dropWhile_cons, dropWhile_cons, h x mem_cons_self, ih fun y hy => h y (mem_cons_of_mem x hy)]

lemma headD_dropWhile_mem {β : Type*} (p : β → Bool) (l : List β) (h : β) : (l.dropWhile p).headD h ∈ h :: l := by
  cases hd : l.dropWhile p with
  | nil => exact mem_cons_self
  | cons x rest =>
    have hmem : x ∈ l.dropWhile p := hd ▸ mem_cons_self
    exact mem_cons_of_mem h ((dropWhile_sublist p).subset hmem)

variable {pending timers : List ℕ}

lemma Apart.append_singleton (h : Apart timers pending)
    (hev : ev ∉ timerList :: timers) : Apart timers (pending ++ [ev]) := by
  intro x hx hx'
  rcases mem_cons.mp hx' with rfl | hx'
  · exact h _ hx mem_cons_self
  · rcases mem_append.mp hx' with hx' | hx'
    · exact h x hx (mem_cons_of_mem _ hx')
    · rw [mem_singleton.mp hx'] at hx
      exact hev hx

variable {L : Links ℕ}

lemma ring_append_pending
    (ht : Ring L timerList timers) (hp : Ring L pendingList pending) (hapart : Apart timers pending)
    (hevt : ev ∉ timerList :: timers) (hevp : ev ∉ pendingList :: pending) :
    Ring (L.insertBefore ev pendingList) timerList timers
      ∧ Ring (L.insertBefore ev pendingList) pendingList (pending ++ [ev]) := by
  constructor
  · exact ht.insertBefore_of_disjoint hp mem_cons_self hapart hevt
  · have hp' : Ring L pendingList (pending ++ []) := by rwa [append_nil]
    exact hp'.insertBefore (by rwa [append_nil])

lemma ring_move
    (ht : Ring L timerList (ev :: timers)) (hp : Ring L pendingList pending) (hapart : Apart (ev :: timers) pending) :
    Ring ((L.unlink nullEvent ev).insertBefore ev pendingList) timerList timers
      ∧ Ring ((L.unlink nullEvent ev).insertBefore ev pendingList) pendingList (pending ++ [ev])
      ∧ Apart timers (pending ++ [ev]) := by
  have hevt : ev ∉ timerList :: timers := by
    have hnodup := ht.nodup
    simp only [nodup_cons, mem_cons, not_or] at hnodup ⊢
    exact ⟨fun heq => hnodup.1.1 heq.symm, hnodup.2.1⟩
  have hevp : ev ∉ pendingList :: pending := hapart ev (by simp)
  have hsub : ∀ x ∈ timerList :: timers, x ∈ timerList :: ev :: timers := by
    intro x hx
    rcases mem_cons.mp hx with rfl | hx
    · exact mem_cons_self
    · exact mem_cons_of_mem _ (mem_cons_of_mem _ hx)
  have hapart' : Apart timers pending := fun x hx => hapart x (hsub x hx)
  have ht' : Ring (L.unlink nullEvent ev) timerList timers := ht.unlink_head nullEvent
  have hp' : Ring (L.unlink nullEvent ev) pendingList pending := by
    refine hp.unlink_of_disjoint nullEvent ht (by simp) fun x hx hx' => ?_
    exact hapart x hx' hx
  rcases ring_append_pending ht' hp' hapart' hevt hevp with ⟨hr, hr'⟩
  exact ⟨hr, hr', hapart'.append_singleton hevt⟩

/-- **The loop of `processTimeouts`** moves the leading expired timers. -/
lemma expire_spec (now : Timeval) (fuel : ℕ) {s : EventLoop}
    (ht : Ring s.links timerList timers) (hp : Ring s.links pendingList pending) (hapart : Apart timers pending)
    (hfuel : timers.length ≤ fuel) :
    Ring (expire now fuel s (timers.headD timerList)).links timerList (timers.dropWhile (s.watch.dueBefore now))
      ∧ Ring (expire now fuel s (timers.headD timerList)).links pendingList
        (pending ++ timers.takeWhile (s.watch.dueBefore now))
      ∧ ∃ L, expire now fuel s (timers.headD timerList) = { s with
          links := L
          inserts := s.inserts + (timers.takeWhile (s.watch.dueBefore now)).length } := by
  induction timers generalizing pending fuel s with
  | nil =>
    have hstop : expire now fuel s timerList = s := by
      cases fuel with
      | zero => rfl
      | succ fuel => rw [expire, if_neg (by simp)]
    simp only [headD_nil, hstop, dropWhile_nil, takeWhile_nil, append_nil]
    exact ⟨ht, hp, s.links, rfl⟩
  | cons tev timers ih =>
    have hne : tev ≠ timerList := ht.ne_sentinel mem_cons_self
    cases fuel with
    | zero => exact absurd hfuel (by simp)
    | succ fuel =>
      rw [headD_cons, expire]
      by_cases hexp : s.watch.dueBefore now tev
      · rw [if_pos ⟨hne, hexp⟩, dropWhile_cons_of_pos hexp, takeWhile_cons_of_pos hexp]
        rcases ring_move ht hp hapart with ⟨ht', hp', hapart'⟩
        have hnext : s.links.next tev = timers.headD timerList := ht.next_head
        rw [hnext]
        have hih := ih fuel (s := (s.removeFromList tev).addToList tev pendingList) ht' hp' hapart'
          (Nat.le_of_succ_le_succ hfuel)
        rcases hih with ⟨hr, hr', L, hL⟩
        refine ⟨hr, ?_, L, ?_⟩
        · rw [append_assoc, singleton_append] at hr'
          exact hr'
        · rw [hL]
          simp only [addToList, removeFromList, length_cons, EventLoop.mk.injEq, true_and, and_true]
          omega
      · rw [if_neg fun hc => hexp hc.2, dropWhile_cons_of_neg hexp, takeWhile_cons_of_neg hexp, append_nil]
        exact ⟨ht, hp, s.links, rfl⟩

/-- **The walk of `ril_timer_add`** stops at the first timer that is not earlier. -/
lemma findPlace_spec (deadline : Timeval) (l₁ l₂ : List ℕ) (fuel : ℕ) (ht : Ring s.links timerList (l₁ ++ l₂))
    (hfuel : l₂.length ≤ fuel) :
    s.findPlace deadline fuel (l₂.headD timerList)
      = (l₂.dropWhile (s.watch.dueBefore deadline)).headD timerList := by
  induction l₂ generalizing l₁ fuel with
  | nil =>
    cases fuel with
    | zero => rfl
    | succ fuel =>
      rw [headD_nil, findPlace, if_neg (by simp)]
      rfl
  | cons tev l₂ ih =>
    have hne : tev ≠ timerList := ht.ne_sentinel (mem_append_right l₁ mem_cons_self)
    cases fuel with
    | zero => cases hfuel
    | succ fuel =>
      rw [headD_cons, findPlace]
      by_cases hlt : s.watch.dueBefore deadline tev
      · rw [if_pos ⟨hlt, hne⟩, dropWhile_cons_of_pos hlt, Ring.next_of_append ht]
        refine ih (l₁ ++ [tev]) fuel ?_ (Nat.le_of_succ_le_succ hfuel)
        rw [append_assoc, singleton_append]
        exact ht
      · rw [if_neg fun hc => hlt hc.1, dropWhile_cons_of_neg hlt, headD_cons]

/-- One ready event: it is put on the list, and out of the table if it is not persistent. -/
lemma addToList_taken (s : EventLoop) (rev : ℕ) (i : Fin maxFdEvents) :
    (if ((s.addToList rev pendingList).watch.event rev).persist = false then
        { s.addToList rev pendingList with watch := (s.addToList rev pendingList).watch.removeWatch rev i }
      else s.addToList rev pendingList)
      = { s.addToList rev pendingList with
          watch := if (s.watch.event rev).persist = false then s.watch.removeWatch rev i else s.watch } := by
  show (if (s.watch.event rev).persist = false then _ else _) = _
  split_ifs <;> rfl

/-- **The loop of `processReadReadies`** appends what `readyScan` says. -/
lemma readReadies_spec (rfds : Finset ℤ) (is : List (Fin maxFdEvents)) {n : ℕ} {s : EventLoop}
    (ht : Ring s.links timerList timers) (hp : Ring s.links pendingList pending)
    (hapart : Apart timers pending) (hnodup : (pending ++ (s.watch.readyScan rfds is n).1).Nodup)
    (hfresh : ∀ ev ∈ (s.watch.readyScan rfds is n).1, ev ∉ timerList :: timers ∧ ev ≠ pendingList) :
    Ring (readReadies rfds is n s).links timerList timers
      ∧ Ring (readReadies rfds is n s).links pendingList (pending ++ (s.watch.readyScan rfds is n).1)
      ∧ ∃ L, readReadies rfds is n s = { s with
          watch := (s.watch.readyScan rfds is n).2
          links := L
          inserts := s.inserts + (s.watch.readyScan rfds is n).1.length } := by
  induction is generalizing n s timers pending with
  | nil =>
    simp only [WatchState.readyScan, readReadies, append_nil]
    exact ⟨ht, hp, s.links, rfl⟩
  | cons i is ih =>
    rw [WatchState.readyScan] at hnodup hfresh ⊢
    rw [readReadies]
    by_cases hn : n = 0
    · simp only [if_pos hn, append_nil]
      exact ⟨ht, hp, s.links, rfl⟩
    simp only [if_neg hn] at hnodup hfresh ⊢
    cases hready : s.watch.readyAt rfds i with
    | none =>
      simp only [hready] at hnodup hfresh ⊢
      exact ih ht hp hapart hnodup hfresh
    | some rev =>
      simp only [hready] at hnodup hfresh ⊢
      rw [addToList_taken]
      generalize (if (s.watch.event rev).persist = false then s.watch.removeWatch rev i
        else s.watch) = w at hnodup hfresh ⊢
      rcases hfresh rev mem_cons_self with ⟨hrevt, hrevp⟩
      have hassoc : pending ++ rev :: (w.readyScan rfds is (n - 1)).1
          = (pending ++ [rev]) ++ (w.readyScan rfds is (n - 1)).1 := by
        rw [append_assoc, singleton_append]
      rw [hassoc] at hnodup ⊢
      have hrevpend : rev ∉ pendingList :: pending := by
        intro hmem
        rcases mem_cons.mp hmem with heq | hmem
        · exact hrevp heq
        · have := (nodup_append.mp (nodup_append.mp hnodup).1).2.2
          exact this rev hmem rev (mem_singleton_self rev) rfl
      rcases ring_append_pending ht hp hapart hrevt hrevpend with ⟨ht', hp'⟩
      have hih := ih (s := { s.addToList rev pendingList with watch := w }) ht' hp'
        (hapart.append_singleton hrevt) hnodup
        fun ev hev => hfresh ev (mem_cons_of_mem rev hev)
      rcases hih with ⟨hr, hr', L, hL⟩
      refine ⟨hr, hr', L, ?_⟩
      rw [hL]
      simp only [addToList, length_cons, EventLoop.mk.injEq, true_and, and_true]
      omega

/-! ## One action -/

lemma Abs.first_timer (h : Abs s a) :
    (if s.links.next timerList = timerList then none else some (s.links.next timerList))
      = a.timers.head? := by
  have hring := h.timers
  rw [hring.next_sentinel]
  cases hl : a.timers with
  | nil => simp
  | cons tev timers =>
    rw [hl] at hring
    simp [hring.ne_sentinel mem_cons_self]

lemma ring_clear {h : ℕ} {l : List ℕ} (hr : Ring L h l) (hev : ev ∉ h :: l) :
    Ring ⟨update L.next ev nullEvent, update L.prev ev nullEvent⟩ h l := by
  have hne : ∀ x ∈ h :: l, x ≠ ev := by
    rintro x hx rfl
    exact hev hx
  exact hr.congr (fun x hx => update_of_ne (hne x hx) _ _)
    fun x hx => update_of_ne (hne x hx) _ _

lemma not_mem_lists (haddr : 3 ≤ ev) (htimers : ev ∉ timers) (hpending : ev ∉ pending) :
    ev ∉ timerList :: timers ∧ ev ∉ pendingList :: pending :=
  ⟨not_mem_cons_of_ne_of_not_mem (ne_timerList haddr) htimers,
    not_mem_cons_of_ne_of_not_mem (ne_pendingList haddr) hpending⟩

lemma Abs.rilEventSet (h : Abs s a) (haddr : 3 ≤ ev)
    (htimers : ev ∉ a.timers) (hpending : ev ∉ a.pending) (fd : ℤ) (persist : Bool) :
    Abs { s with
      watch := s.watch.rilEventSet ev fd persist
      links := ⟨update s.links.next ev nullEvent,
        update s.links.prev ev nullEvent⟩ }
      { a with watch := a.watch.rilEventSet ev fd persist } := by
  obtain ⟨htl, hpl⟩ := not_mem_lists haddr htimers hpending
  exact ⟨by rw [h.watch_eq], h.phase_eq, h.log_eq, ring_clear h.timers htl,
    ring_clear h.pending hpl, h.fuel, h.cursor⟩

lemma Abs.rilTimerAdd (h : Abs s a) (hinv : a.Inv)
    (hinit : (a.watch.event ev).initialised = true) (htimers : ev ∉ a.timers)
    (hpending : ev ∉ a.pending) (tv now : Timeval) : Abs (s.rilTimerAdd ev tv now) (a.rilTimerAdd ev tv now) := by
  obtain ⟨htl, hpl⟩ := not_mem_lists (hinv.address ev hinit) htimers hpending
  have hfuel := h.fuel
  -- arming `ev` does not change the deadlines of the listed timers
  have hsame : ∀ tev ∈ a.timers,
      (s.watch.armTimer ev (now.timeradd tv) s.log.adds.length).dueBefore (now.timeradd tv) tev
        = a.watch.dueBefore (now.timeradd tv) tev := by
    intro tev htev
    have hne : tev ≠ ev := fun heq => htimers (heq ▸ htev)
    simp [WatchState.dueBefore, WatchState.armTimer, update_of_ne hne, h.watch_eq]
  have hplace := findPlace_spec (now.timeradd tv) [] a.timers s.inserts
    (s := { s with
      watch := s.watch.armTimer ev (now.timeradd tv) s.log.adds.length
      log := { s.log with
        clock := now
        adds := s.log.adds ++ [TimerAdd.mk (now.timeradd tv) s.log.readings.length] } })
    h.timers (by omega)
  have hdrop : a.timers.dropWhile
      ((s.watch.armTimer ev (now.timeradd tv) s.log.adds.length).dueBefore (now.timeradd tv))
      = a.timers.dropWhile (a.watch.dueBefore (now.timeradd tv)) := dropWhile_congr hsame
  rw [hdrop, ← h.timers.next_sentinel] at hplace
  simp only [EventLoop.rilTimerAdd, ListLoop.rilTimerAdd, addToList]
  rw [hplace]
  have hring : Ring s.links timerList (a.timers.takeWhile (a.watch.dueBefore (now.timeradd tv))
      ++ a.timers.dropWhile (a.watch.dueBefore (now.timeradd tv))) := by
    rw [takeWhile_append_dropWhile]
    exact h.timers
  refine ⟨by rw [h.watch_eq, h.log_eq], h.phase_eq, by rw [h.log_eq], ?_, ?_, ?_, h.cursor⟩
  · exact hring.insertBefore (by rwa [takeWhile_append_dropWhile])
  · refine h.pending.insertBefore_of_disjoint h.timers ?_ ?_ hpl
    · exact headD_dropWhile_mem _ a.timers timerList
    · exact fun x hx hx' => apart_of_inv hinv x hx' hx
  · have hlen := (ListLoop.insert_perm (a.watch.dueBefore (now.timeradd tv)) ev a.timers).length_eq
    show (a.timers.takeWhile _ ++ ev :: a.timers.dropWhile _).length + a.pending.length ≤ s.inserts + 1
    rw [hlen, length_cons]
    omega

lemma Abs.processTimeouts (h : Abs s a) (hinv : a.Inv) (rfds : Finset ℤ) (now : Timeval) :
    Abs { s.processTimeouts now with phase := .timeoutsDone rfds }
      { a.processTimeouts now with phase := .timeoutsDone rfds } := by
  have hfuel := h.fuel
  have hexpire := expire_spec now s.inserts (s := { s with
    log := { s.log with clock := now, readings := s.log.readings ++ [now] } })
    h.timers h.pending (apart_of_inv hinv) (by omega)
  rw [← h.timers.next_sentinel] at hexpire
  rcases hexpire with ⟨ht, hp, L, hL⟩
  simp only [EventLoop.processTimeouts, ListLoop.processTimeouts, h.watch_eq, h.log_eq]
  refine ⟨?_, rfl, ?_, ht, hp, ?_, by simp⟩
  · rw [hL]
  · rw [hL]
  · rw [hL]
    have hlen := congrArg List.length
      (takeWhile_append_dropWhile (p := s.watch.dueBefore now) (l := a.timers))
    simp only [length_append] at hlen ⊢
    omega

lemma Abs.processReadReadies (h : Abs s a) (hinv : a.Inv) {rfds : Finset ℤ} (hphase : a.phase = .timeoutsDone rfds) :
    Abs { s.processReadReadies rfds with phase := .readiesDone }
      { a.processReadReadies rfds with phase := .readiesDone } := by
  have hfuel := h.fuel
  have hinv' := hinv.processReadReadies hphase
  have hnodup := hinv'.nodup
  have haddr : ∀ ev ∈ (a.processReadReadies rfds).timers ++ (a.processReadReadies rfds).pending,
      3 ≤ ev := fun ev hev => address_of_mem hinv' hev
  simp only [ListLoop.processReadReadies] at hnodup haddr ⊢
  rw [h.watch_eq] at hnodup haddr ⊢
  have hreadies := readReadies_spec rfds (List.finRange maxFdEvents) (n := rfds.card) (s := s)
    h.timers h.pending (apart_of_inv hinv) (nodup_append.mp hnodup).2.1 fun ev hev => ?_
  · rcases hreadies with ⟨ht, hp, L, hL⟩
    simp only [EventLoop.processReadReadies]
    refine ⟨?_, rfl, ?_, ht, hp, ?_, by simp⟩
    · rw [hL]
    · rw [hL]
      exact h.log_eq
    · rw [hL]
      simp only [length_append]
      omega
  · have hmem : ev ∈ a.pending ++ (s.watch.readyScan rfds (List.finRange maxFdEvents) rfds.card).1 :=
      mem_append_right _ hev
    have hge := haddr ev (mem_append_right _ hmem)
    refine ⟨not_mem_cons_of_ne_of_not_mem (ne_timerList hge) fun hmem' => ?_, ne_pendingList hge⟩
    exact (nodup_append.mp hnodup).2.2 ev hmem' ev hmem rfl

lemma Abs.fire (h : Abs s a) (hinv : a.Inv) {rest : List ℕ} (hcons : a.pending = ev :: rest) :
    Abs { s.removeFromList ev with
        cursor := s.links.next ev
        log := s.log.fired (s.watch.event ev) }
      { a with pending := rest, log := a.log.fired (a.watch.event ev) } := by
  have hapart := apart_of_inv hinv
  have hfuel := h.fuel
  have hp := h.pending
  rw [hcons] at hp hfuel hapart
  refine ⟨h.watch_eq, h.phase_eq, by rw [h.log_eq, h.watch_eq], ?_, ?_, ?_, fun _ => ?_⟩
  · exact h.timers.unlink_of_disjoint nullEvent hp (by simp) hapart
  · exact hp.unlink_head nullEvent
  · simp only [removeFromList, length_cons] at hfuel ⊢
    omega
  · exact hp.next_head

lemma Abs.setPhase (h : Abs s a) {phase : LoopPhase}
    (hne : phase ≠ .firing) : Abs { s with phase := phase } { a with phase := phase } :=
  ⟨h.watch_eq, rfl, h.log_eq, h.timers, h.pending, h.fuel, fun hc => absurd hc hne⟩

lemma Abs.step_select (h : Abs s a) {result : SelectResult} (hs' : s.step (.select result) = some s') :
    ∃ a', a.Step (.select result) a' ∧ Abs s' a' := by
  simp only [EventLoop.step, ← h.phase_eq] at hs'
  split at hs'
  · next ptv rfds hphase =>
    cases hs'
    exact ⟨_, .ready hphase, h.setPhase (by simp)⟩
  · next ptv hphase =>
    cases hs'
    exact ⟨_, .interrupted hphase, h.setPhase (by simp)⟩
  · next ptv hphase =>
    cases hs'
    exact ⟨_, .failed hphase, h.setPhase (by simp)⟩
  · cases hs'

/-- The walk of `firePending` is at the head of the pending list, so it ends when that is empty. -/
lemma Abs.step_fire (h : Abs s a) (hinv : a.Inv)
    (hs' : s.step .fire = some s') : ∃ a', a.Step .fire a' ∧ Abs s' a' := by
  simp only [EventLoop.step, ← h.phase_eq] at hs'
  split at hs'
  · next hphase =>
    have hcursor := h.cursor hphase
    cases hcons : a.pending with
    | nil =>
      rw [hcons, headD_nil] at hcursor
      rw [if_pos hcursor] at hs'
      cases hs'
      exact ⟨_, .fired hphase hcons, h.watch_eq, rfl, by rw [h.log_eq], h.timers, h.pending, h.fuel, by simp⟩
    | cons ev rest =>
      have hne : ev ≠ pendingList :=
        ne_pendingList (address_of_mem hinv (mem_append_right a.timers (hcons ▸ mem_cons_self)))
      rw [hcons, headD_cons] at hcursor
      rw [hcursor, if_neg hne] at hs'
      cases hs'
      exact ⟨_, .fire hphase hcons, h.fire hinv hcons⟩
  · cases hs'

/-- A change of the watched descriptors alone touches neither the links nor the lists. -/
lemma Abs.setWatch (h : Abs s a) (w : WatchState) : Abs { s with watch := w } { a with watch := w } :=
  ⟨rfl, h.phase_eq, h.log_eq, h.timers, h.pending, h.fuel, h.cursor⟩

lemma Abs.step_processTimeouts (h : Abs s a) (hinv : a.Inv)
    {now : Timeval} (hs' : s.step (.processTimeouts now) = some s') :
    ∃ a', a.Step (.processTimeouts now) a' ∧ Abs s' a' := by
  simp only [EventLoop.step, ← h.log_eq, ← h.phase_eq] at hs'
  split at hs'
  · next rfds hphase =>
    obtain ⟨hlater, rfl⟩ := ite_some_none_eq_some.mp hs'
    exact ⟨_, .processTimeouts hphase hlater, h.processTimeouts hinv rfds now⟩
  · cases hs'

lemma Abs.step_processReadReadies (h : Abs s a) (hinv : a.Inv) (hs' : s.step .processReadReadies = some s') :
    ∃ a', a.Step .processReadReadies a' ∧ Abs s' a' := by
  simp only [EventLoop.step, ← h.phase_eq] at hs'
  split at hs'
  · next rfds hphase =>
    cases hs'
    exact ⟨_, .processReadReadies hphase, h.processReadReadies hinv hphase⟩
  · cases hs'

lemma Abs.step_firePending (h : Abs s a) (hs' : s.step .firePending = some s') :
    ∃ a', a.Step .firePending a' ∧ Abs s' a' := by
  simp only [EventLoop.step, ← h.phase_eq] at hs'
  split at hs'
  · next hphase =>
    cases hs'
    exact ⟨_, .firePending hphase, h.watch_eq, rfl, h.log_eq, h.timers, h.pending, h.fuel,
      fun _ => h.pending.next_sentinel⟩
  · cases hs'

variable {act : LoopAct}

/-- **Each action of the code is the same action of the lists.** -/
lemma step_abs (h : Abs s a) (hinv : a.Inv) (hs' : s.step act = some s') : ∃ a', a.Step act a' ∧ Abs s' a' := by
  cases act with
  | rilEventSet ev fd persist =>
    simp only [EventLoop.step, h.timers_eq, h.pending_eq, ← h.watch_eq] at hs'
    obtain ⟨⟨haddr, htimers, hpending, hwatched⟩, rfl⟩ := ite_some_none_eq_some.mp hs'
    have habs := h.rilEventSet haddr htimers hpending fd persist
    rw [← h.watch_eq] at habs
    exact ⟨_, .rilEventSet haddr (by simp [htimers, hpending]) hwatched, habs⟩
  | rilEventAdd ev =>
    simp only [EventLoop.step, ← h.watch_eq] at hs'
    obtain ⟨hguard, rfl⟩ := ite_some_none_eq_some.mp hs'
    exact ⟨_, .rilEventAdd hguard, h.setWatch _⟩
  | rilEventDel ev =>
    simp only [EventLoop.step, ← h.watch_eq] at hs'
    obtain ⟨hguard, rfl⟩ := ite_some_none_eq_some.mp hs'
    exact ⟨_, .rilEventDel hguard, h.setWatch _⟩
  | rilTimerAdd ev tv now =>
    simp only [EventLoop.step, h.timers_eq, h.pending_eq, ← h.watch_eq, ← h.log_eq] at hs'
    obtain ⟨⟨hinit, htimers, hpending, hwatched, htv, hfits, hnow⟩, rfl⟩ := ite_some_none_eq_some.mp hs'
    exact ⟨_, .rilTimerAdd hinit (by simp [htimers, hpending]) hwatched htv hfits hnow,
      h.rilTimerAdd hinv hinit htimers hpending tv now⟩
  | calcNextTimeout now =>
    simp only [EventLoop.step, h.first_timer, ← h.watch_eq, ← h.log_eq, ← h.phase_eq] at hs'
    obtain ⟨⟨hphase, hnow⟩, rfl⟩ := ite_some_none_eq_some.mp hs'
    exact ⟨_, .calcNextTimeout hphase hnow, rfl, rfl, rfl, h.timers, h.pending, h.fuel, by simp⟩
  | select result => exact h.step_select hs'
  | processTimeouts now => exact h.step_processTimeouts hinv hs'
  | processReadReadies => exact h.step_processReadReadies hinv hs'
  | firePending => exact h.step_firePending hs'
  | fire => exact h.step_fire hinv hs'

lemma init_abs (event : ℕ → RilEvent) (links : Links ℕ) (clock : Timeval) :
    Abs (init event links clock) (ListLoop.init event clock) where
  watch_eq := rfl
  phase_eq := rfl
  log_eq := rfl
  timers := ring_nil (by simp [init, timerList, pendingList]) (by simp [init, timerList, pendingList])
  pending := ring_nil (by simp [init]) (by simp [init])
  fuel := by simp [init, ListLoop.init]
  cursor := by simp [ListLoop.init]

/-! ## The watch table, all along a run -/

/-- The four places that know what is watched agree. -/
structure WatchConsistent (s : EventLoop) : Prop where
  index_eq : ∀ i ev, s.watch.watchTable i = some ev → (s.watch.event ev).index = i
  one_slot : ∀ i j ev, s.watch.watchTable i = some ev → s.watch.watchTable j = some ev → i = j
  readFds_iff : ∀ fd, fd ∈ s.watch.readFds ↔
    ∃ i ev, s.watch.watchTable i = some ev ∧ (s.watch.event ev).fd = fd
  nfds_gt : ∀ i ev, s.watch.watchTable i = some ev → (s.watch.event ev).fd < s.watch.nfds

/-- From `s` to `s'` every watched event with a descriptor in `rfds` was queued, exactly once, and
the non-persistent ones of them, and nothing else, left the table. -/
structure ReadiesQueued (s : EventLoop) (rfds : Finset ℤ) (s' : EventLoop) : Prop where
  queued : ∃ queued, s'.pending = s.pending ++ queued ∧ (s.pending ++ queued).Nodup
    ∧ ∀ ev, ev ∈ queued ↔ s.watch.Watched ev ∧ (s.watch.event ev).fd ∈ rfds
  left : ∀ i ev, s'.watch.watchTable i = some ev ↔ s.watch.watchTable i = some ev
    ∧ ¬ ((s.watch.event ev).fd ∈ rfds ∧ (s.watch.event ev).persist = false)

/-- The watch state is consistent, and a `processReadReadies` queues what is ready, whatever `select` reported. -/
structure WatchOk (s : EventLoop) : Prop where
  consistent : s.WatchConsistent
  readies : ∀ s', s.step .processReadReadies = some s' →
    ∃ rfds, s.phase = .timeoutsDone rfds ∧ ReadiesQueued s rfds s'

/-- A descriptor that is added is one of an `fd_set`. -/
def AddsInFdSet (s : EventLoop) : LoopAct → Prop
  | .rilEventAdd ev => (s.watch.event ev).fd < fdSetSize
  | _ => True

instance (s : EventLoop) : DecidablePred s.AddsInFdSet
  | .rilEventAdd ev => inferInstanceAs (Decidable ((s.watch.event ev).fd < fdSetSize))
  | .rilEventSet _ _ _ | .rilEventDel _ | .rilTimerAdd _ _ _ | .calcNextTimeout _ | .select _ | .processTimeouts _
  | .processReadReadies | .firePending | .fire => isTrue trivial

/-- The code's state is one of the lists, and no watched descriptor is outside an `fd_set`. -/
def WatchedInSet (s : EventLoop) : Prop := ∃ a, Abs s a ∧ a.Inv ∧ s.watch.InFdSet

variable {s' : EventLoop}

lemma ReadiesQueued.of_abs {a : ListLoop} (habs : Abs s a) (hinv : a.Inv)
    (hs' : s.step .processReadReadies = some s') : ∃ rfds, s.phase = .timeoutsDone rfds ∧ ReadiesQueued s rfds s' := by
  rcases step_abs habs hinv hs' with ⟨a', ha', habs'⟩
  have hinv' := ha'.inv hinv
  cases ha' with
  | @processReadReadies rfds hphase =>
    have hscan := WatchState.readyScan_spec hinv.watch rfds
    refine ⟨rfds, habs.phase_eq.symm.trans hphase,
      ⟨(a.watch.readyScan rfds (List.finRange maxFdEvents) rfds.card).1, ?_, ?_, ?_⟩, ?_⟩
    · rw [habs.pending_eq]
      exact habs'.pending_eq
    · rw [habs.pending_eq]
      exact (nodup_append.mp hinv'.nodup).2.1
    · rw [← habs.watch_eq]
      exact (hscan.queued hinv.watch).2
    · intro i ev
      rw [← habs'.watch_eq, ← habs.watch_eq]
      have htable := hscan.table_iff i ev
      simp only [mem_finRange, true_and] at htable
      exact htable

lemma WatchedInSet.watchOk (h : s.WatchedInSet) : s.WatchOk := by
  obtain ⟨a, habs, hinv, hset⟩ := h
  have hwatch : s.watch.WatchInv := habs.watch_eq ▸ hinv.watch
  refine ⟨⟨hwatch.index_eq, fun i j ev hi hj => hwatch.slot_inj hi hj, fun fd => ?_, hwatch.nfds_gt⟩,
    fun s' hs' => ReadiesQueued.of_abs habs hinv hs'⟩
  rw [hwatch.readFds_iff]
  refine and_iff_right_of_imp ?_
  rintro ⟨i, ev, hi, rfl⟩
  exact hset i ev hi

/-- **One step** leaves the watched descriptors inside the set if the one it adds is. -/
lemma WatchedInSet.step (h : s.WatchedInSet) (hadds : s.AddsInFdSet act)
    (hs' : s.step act = some s') : s'.WatchedInSet := by
  obtain ⟨a, habs, hinv, hset⟩ := h
  obtain ⟨a', ha', habs'⟩ := step_abs habs hinv hs'
  refine ⟨a', habs', ha'.inv hinv, ?_⟩
  rw [← habs.watch_eq] at hset
  rw [← habs'.watch_eq]
  cases ha' with
  | rilEventSet _ _ hwatched => exact hset.update_event hwatched _
  | rilEventAdd hadd =>
    have hfd : (s.watch.event _).fd < fdSetSize := hadds
    rw [← habs.watch_eq] at hfd
    exact hset.rilEventAdd hadd.2.2.2.2 hfd
  | rilEventDel hinit =>
    obtain ⟨-, hsame, htable⟩ := hinv.watch.rilEventDel hinit
    exact hset.of_table fun i ev hi => ⟨((htable i ev).mp hi).2, hsame.fd_eq ev⟩
  | rilTimerAdd _ _ hwatched => exact hset.update_event hwatched _
  | @processReadReadies rfds _ =>
    have hscan := WatchState.readyScan_spec hinv.watch rfds
    exact hset.of_table fun i ev hi => ⟨((hscan.table_iff i ev).mp hi).1, hscan.same.fd_eq ev⟩
  | calcNextTimeout | ready | interrupted | failed | processTimeouts | firePending | fired | fire => exact hset

/-- **A descriptor outside the set** is watched without being in it. -/
lemma WatchedInSet.not_watchOk (h : s.WatchedInSet) (hadds : ¬ s.AddsInFdSet act)
    (hs' : s.step act = some s') : ¬ s'.WatchOk := by
  obtain ⟨a, habs, hinv, -⟩ := h
  obtain ⟨a', ha', habs'⟩ := step_abs habs hinv hs'
  have hwatch : s'.watch.WatchInv := habs'.watch_eq ▸ (ha'.inv hinv).watch
  intro hok
  cases act with
  | rilEventAdd ev =>
    obtain ⟨⟨-, -, -, -, hroom⟩, rfl⟩ := ite_some_none_eq_some.mp hs'
    obtain ⟨i, -, heq⟩ := WatchState.rilEventAdd_eq hroom ev
    have hslot : (s.watch.rilEventAdd ev).watchTable i = some ev := by
      rw [heq]
      exact update_self ..
    have hfd : ((s.watch.rilEventAdd ev).event ev).fd = (s.watch.event ev).fd := by
      rw [heq]
      dsimp only
      rw [update_self]
    have hmem := (hok.consistent.readFds_iff _).mpr ⟨i, ev, hslot, hfd⟩
    exact hadds ((hwatch.readFds_iff _).mp hmem).1
  | rilEventSet | rilEventDel | rilTimerAdd | calcNextTimeout | select | processTimeouts | processReadReadies
  | firePending | fire => exact hadds trivial

/-- **The watch state is consistent** in every state that a sequence of additions, deletions,
timers and loop iterations visits, and every `processReadReadies` queues what is ready, iff no descriptor from
`FD_SETSIZE` on is added. -/
theorem watch_consistent (event : ℕ → RilEvent) (links : Links ℕ) (clock : Timeval)
    (acts : List LoopAct) (s : EventLoop) (hrun : run step (init event links clock) acts = some s) :
    Along step WatchOk (init event links clock) acts ↔ StepsMeet step AddsInFdSet (init event links clock) acts := by
  refine along_iff_stepsMeet (I := WatchedInSet) (fun _ _ _ h hadds hs' => h.step hadds hs') (fun _ h => h.watchOk)
    (fun _ _ _ h hadds hs' => h.not_watchOk hadds hs') ?_ hrun
  exact ⟨ListLoop.init event clock, init_abs event links clock, ListLoop.init_inv event clock,
    by simp [init, WatchState.InFdSet]⟩

/-- Two descriptors, one of them watched for one event only, are readable in one iteration. -/
def watchRun : List LoopAct :=
  [.rilEventSet 3 5 true, .rilEventSet 4 7 false, .rilEventSet 5 9 true, .rilEventAdd 3,
    .rilEventAdd 5, .rilEventAdd 4, .rilEventDel 5, .calcNextTimeout ⟨1, 0⟩,
    .select (.ready {5, 7}), .processTimeouts ⟨1, 0⟩]

theorem watch_consistent_watchRun :
    ∃ s s', run step (init (fun _ => default) ⟨fun _ => 0, fun _ => 0⟩ ⟨0, 0⟩) watchRun = some s
      ∧ s.step .processReadReadies = some s' ∧ s'.pending = [3, 4] ∧ s'.watch.watchTable 2 = none
      ∧ Along step WatchOk (init (fun _ => default) ⟨fun _ => 0, fun _ => 0⟩ ⟨0, 0⟩) watchRun := by
  have hiff := watch_consistent (fun _ => default) ⟨fun _ => 0, fun _ => 0⟩ ⟨0, 0⟩ watchRun _ rfl
  exact ⟨_, _, rfl, rfl, rfl, rfl, hiff.mpr (by decide)⟩

/-- **The defect**: descriptor 1024 is in the table, and not in `readFds`. -/
theorem fd_outside_set :
    ∃ s, run step (init (fun _ => default) ⟨fun _ => 0, fun _ => 0⟩ ⟨0, 0⟩)
        [.rilEventSet 3 1024 true, .rilEventAdd 3] = some s
      ∧ s.watch.watchTable 0 = some 3 ∧ (s.watch.event 3).fd = 1024 ∧ 1024 ∉ s.watch.readFds ∧ ¬ s.WatchOk := by
  refine ⟨_, rfl, rfl, rfl, by decide, fun hok => ?_⟩
  exact absurd ((hok.consistent.readFds_iff 1024).mpr ⟨0, 3, rfl, rfl⟩) (by decide)

end EventLoop

end Hal
