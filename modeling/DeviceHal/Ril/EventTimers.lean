import DeviceHal.Ril.EventRefine
import Mathlib.Data.List.Pairwise
import Mathlib.Data.List.TakeWhile

/-!
# Timers

A timer is called back once, not before its deadline, in the first iteration that reads the clock
past it, and in the order of the deadlines.  All of it is a matter of lists: `ListLoop.TimerInv`
holds along every run of `ListLoop`, and `EventLoop.timers_ok` carries it over to the links.

The invariant speaks of `ListLoop.dueList`, the timers called back followed by the ones about to be,
so that `firePending`, which moves an event from one to the other, leaves it alone.
-/

namespace Hal

open List Option

/-! ## Lists sorted by a key -/

section Sorted

variable {β : Type*} {key : β → ℤ} {p : β → Bool} {t : ℤ} {l : List β}

lemma le_of_mem_dropWhile (hsorted : l.Pairwise fun x y => key x ≤ key y)
    (hp : ∀ x ∈ l, p x = true ↔ key x < t) : ∀ x ∈ l.dropWhile p, t ≤ key x := by
  induction l with
  | nil => simp
  | cons y l ih =>
    rcases pairwise_cons.mp hsorted with ⟨hle, hsorted'⟩
    by_cases hy : p y = true
    · rw [dropWhile_cons_of_pos hy]
      exact ih hsorted' fun x hx => hp x (mem_cons_of_mem y hx)
    · rw [dropWhile_cons_of_neg hy]
      have hty : t ≤ key y := not_lt.mp fun hlt => hy ((hp y mem_cons_self).mpr hlt)
      intro x hx
      rcases mem_cons.mp hx with rfl | hx
      · exact hty
      · exact hty.trans (hle x hx)

lemma lt_of_mem_takeWhile (hp : ∀ x ∈ l, p x = true ↔ key x < t) : ∀ x ∈ l.takeWhile p, key x < t := fun x hx =>
  (hp x ((takeWhile_sublist p).subset hx)).mp (mem_takeWhile_imp hx)

lemma insert_sorted {z : β} (hsorted : l.Pairwise fun x y => key x ≤ key y)
    (hp : ∀ x ∈ l, p x = true ↔ key x < key z) :
    (l.takeWhile p ++ z :: l.dropWhile p).Pairwise fun x y => key x ≤ key y := by
  have hsplit := hsorted
  rw [← takeWhile_append_dropWhile (p := p) (l := l), pairwise_append] at hsplit
  rcases hsplit with ⟨htake, hdrop, hcross⟩
  refine pairwise_append.mpr
    ⟨htake, pairwise_cons.mpr ⟨le_of_mem_dropWhile hsorted hp, hdrop⟩, fun x hx y hy => ?_⟩
  rcases mem_cons.mp hy with rfl | hy
  · exact (lt_of_mem_takeWhile hp x hx).le
  · exact hcross x hx y hy

lemma getElem?_append_of_eq_some {i : ℕ} {x : β} (h : l[i]? = some x) (l' : List β) : (l ++ l')[i]? = some x := by
  rcases List.getElem?_eq_some_iff.mp h with ⟨hi, _⟩
  rwa [getElem?_append_left hi]

end Sorted

/-! ## First past the deadline -/

namespace TimerAdd

/-- No iteration since the timer was added has read the clock past its deadline. -/
def NotPast (add : TimerAdd) (readings : List Timeval) : Prop :=
  ∀ k now, add.addedIter ≤ k → readings[k]? = some now → now.micros ≤ add.deadline.micros

/-- Iteration `iter` is the first since the timer was added that has. -/
structure FirstPast (add : TimerAdd) (readings : List Timeval) (iter : ℕ) : Prop where
  added : add.addedIter ≤ iter
  past : ∃ now, readings[iter]? = some now ∧ add.deadline.micros < now.micros
  first : ∀ k now, add.addedIter ≤ k → k < iter → readings[k]? = some now →
    now.micros ≤ add.deadline.micros

variable {add : TimerAdd} {readings : List Timeval} {now : Timeval}

lemma notPast_of_length_le (h : readings.length ≤ add.addedIter) : add.NotPast readings := by
  intro k now hk hget
  rcases List.getElem?_eq_some_iff.mp hget with ⟨hlt, _⟩
  omega

lemma NotPast.append (h : add.NotPast readings) (hle : now.micros ≤ add.deadline.micros) :
    add.NotPast (readings ++ [now]) := by
  intro k now' hk hget
  rcases lt_or_ge k readings.length with hlt | hge
  · rw [getElem?_append_left hlt] at hget
    exact h k now' hk hget
  · rw [getElem?_append_right hge, getElem?_singleton] at hget
    obtain ⟨-, rfl⟩ := ite_some_none_eq_some.mp hget
    exact hle

lemma NotPast.firstPast (h : add.NotPast readings) (hadded : add.addedIter ≤ readings.length)
    (hlt : add.deadline.micros < now.micros) :
    add.FirstPast (readings ++ [now]) readings.length where
  added := hadded
  past := ⟨now, by simp, hlt⟩
  first k now' hk hkl hget := h k now' hk (by rwa [getElem?_append_left hkl] at hget)

variable {iter : ℕ}

lemma FirstPast.lt_length (h : add.FirstPast readings iter) : iter < readings.length := by
  rcases h.past with ⟨now, hget, _⟩
  exact (List.getElem?_eq_some_iff.mp hget).1

lemma FirstPast.append (h : add.FirstPast readings iter) (now : Timeval) :
    add.FirstPast (readings ++ [now]) iter where
  added := h.added
  past := by
    rcases h.past with ⟨now', hget, hlt⟩
    exact ⟨now', getElem?_append_of_eq_some hget _, hlt⟩
  first k now' hk hkl hget :=
    h.first k now' hk hkl (by rwa [getElem?_append_left (hkl.trans h.lt_length)] at hget)

lemma FirstPast.iter_eq {iter' : ℕ} (h : add.FirstPast readings iter)
    (h' : add.FirstPast readings iter') : iter = iter' := by
  have hle : ∀ {i j : ℕ}, add.FirstPast readings i → add.FirstPast readings j → i ≤ j := by
    intro i j hi hj
    rcases hj.past with ⟨now, hget, hlt⟩
    by_contra hji
    exact absurd (hi.first j now hj.added (not_le.mp hji) hget) (not_le.mpr hlt)
  exact le_antisymm (hle h h') (hle h' h)

end TimerAdd

/-! ## The invariant of the lists -/

/-- The deadline of a timer, in microseconds. -/
def WatchState.deadline (w : WatchState) (ev : ℕ) : ℤ := (w.event ev).timeout.micros

namespace ListLoop

/-- The timers called back so far, and the ones about to be. -/
def dueList (a : ListLoop) : List TimerDue :=
  a.log.fires.map TimerFire.toTimerDue
    ++ a.pending.filterMap fun ev => (a.watch.event ev).due (a.log.readings.length - 1)

def timerIds (a : ListLoop) : List ℕ := a.timers.filterMap fun ev => (a.watch.event ev).timerId

structure TimerInv (a : ListLoop) : Prop where
  adds : ∀ add ∈ a.log.adds, add.deadline.WellFormed ∧ add.addedIter ≤ a.log.readings.length
  armed : ∀ ev ∈ a.timers, ∀ id, (a.watch.event ev).timerId = some id →
    ∃ add, a.log.adds[id]? = some add ∧ add.deadline = (a.watch.event ev).timeout
      ∧ add.NotPast a.log.readings
  sorted : a.timers.Pairwise fun x y => a.watch.deadline x ≤ a.watch.deadline y
  /-- No timer is lost, and none is there twice. -/
  ids : (a.timerIds ++ a.dueList.map TimerDue.id).Perm (List.range a.log.adds.length)
  due : ∀ d ∈ a.dueList, ∃ add, a.log.adds[d.id]? = some add ∧ add.deadline = d.deadline
    ∧ add.FirstPast a.log.readings d.iter
  ordered : a.dueList.Pairwise fun d d' =>
    d.iter = d'.iter → d.deadline.micros ≤ d'.deadline.micros
  clock : ∀ now ∈ a.log.readings, now.micros ≤ a.log.clock.micros
  fired : ∀ f ∈ a.log.fires, f.deadline.micros < f.clock.micros
  done_le : a.log.done ≤ a.log.readings.length
  done_lt : a.pending ≠ [] ∨ (∃ rfds, a.phase = .timeoutsDone rfds) →
    a.log.done < a.log.readings.length

lemma init_timerInv (event : ℕ → RilEvent) (clock : Timeval) : (init event clock).TimerInv where
  adds := by simp [init]
  armed := by simp [init]
  sorted := by simp [init]
  ids := by simp [init, timerIds, dueList]
  due := by simp [init, dueList]
  ordered := by simp [init, dueList]
  clock := by simp [init]
  fired := by simp [init]
  done_le := by simp [init]
  done_lt := by simp [init]

variable {a : ListLoop} {now : Timeval}

/-- Listed timers have well-formed deadlines, so that the code's comparison compares times. -/
lemma TimerInv.dueBefore_iff (h : a.TimerInv) (hinv : a.Inv) {t : Timeval} (ht : t.WellFormed) :
    ∀ ev ∈ a.timers, a.watch.dueBefore t ev = true ↔ a.watch.deadline ev < t.micros := by
  intro ev hev
  rcases ne_none_iff_exists'.mp (hinv.timers_timer ev hev) with ⟨id, hid⟩
  rcases h.armed ev hev id hid with ⟨add, hadd, hdeadline, _⟩
  have hwf := (h.adds add (mem_of_getElem? hadd)).1
  rw [hdeadline] at hwf
  exact Timeval.timercmpLt_iff hwf ht

lemma TimerInv.of_watch (h : a.TimerInv) {w : WatchState}
    (hw : ∀ ev ∈ a.timers ++ a.pending, (w.event ev).timerId = (a.watch.event ev).timerId
      ∧ (w.event ev).timeout = (a.watch.event ev).timeout) : ({ a with watch := w } : ListLoop).TimerInv := by
  have hids : ({ a with watch := w } : ListLoop).timerIds = a.timerIds :=
    filterMap_congr fun ev hev => (hw ev (mem_append_left _ hev)).1
  have hdue : ({ a with watch := w } : ListLoop).dueList = a.dueList := by
    refine congrArg₂ (· ++ ·) rfl (filterMap_congr fun ev hev => ?_)
    rcases hw ev (mem_append_right _ hev) with ⟨htimer, htimeout⟩
    simp only [RilEvent.due, htimer, htimeout]
  refine ⟨h.adds, fun ev hev id hid => ?_, h.sorted.imp_of_mem fun {x y} hx hy hxy => ?_, ?_, ?_, ?_,
    h.clock, h.fired, h.done_le, h.done_lt⟩
  · rcases hw ev (mem_append_left _ hev) with ⟨htimer, htimeout⟩
    rw [htimeout]
    exact h.armed ev hev id (htimer.symm.trans hid)
  · simp only [WatchState.deadline, (hw x (mem_append_left _ hx)).2, (hw y (mem_append_left _ hy)).2]
    exact hxy
  · rw [hids, hdue]
    exact h.ids
  · rw [hdue]
    exact h.due
  · rw [hdue]
    exact h.ordered

lemma TimerInv.of_phase (h : a.TimerInv) {phase : LoopPhase} (hphase : ∀ rfds, phase ≠ .timeoutsDone rfds)
    (hle : a.log.clock.micros ≤ now.micros) :
    ({ a with phase := phase, log := { a.log with clock := now } } : ListLoop).TimerInv := by
  refine ⟨h.adds, h.armed, h.sorted, h.ids, h.due, h.ordered,
    fun now' hnow' => (h.clock now' hnow').trans hle, h.fired, h.done_le, ?_⟩
  rintro (hpending | ⟨rfds, hr⟩)
  · exact h.done_lt (.inl hpending)
  · exact absurd hr (hphase rfds)

lemma armTimer_event_self (w : WatchState) (ev : ℕ) (t : Timeval) (id : ℕ) :
    ((w.armTimer ev t id).event ev).timerId = some id
      ∧ ((w.armTimer ev t id).event ev).timeout = t := by
  simp [WatchState.armTimer]

section Arm

variable {ev : ℕ} {tv : Timeval} (h : a.TimerInv) (hev : ev ∉ a.timers ++ a.pending)

include hev

/-- Arming an event that is on no list leaves the listed ones as they were. -/
lemma armTimer_event_of_mem {ev' : ℕ} (hmem : ev' ∈ a.timers ++ a.pending) (t : Timeval) (id : ℕ) :
    (a.watch.armTimer ev t id).event ev' = a.watch.event ev' := by
  refine Function.update_of_ne ?_ _ _
  rintro rfl
  exact hev hmem

include h

lemma TimerInv.armTimer (t : Timeval) (id : ℕ) :
    ({ a with watch := a.watch.armTimer ev t id } : ListLoop).TimerInv := by
  refine h.of_watch fun ev' hmem => ?_
  rw [armTimer_event_of_mem hev hmem]
  exact ⟨rfl, rfl⟩

lemma TimerInv.sorted_rilTimerAdd (hinv : a.Inv) (hdeadline : (now.timeradd tv).WellFormed) :
    (a.rilTimerAdd ev tv now).timers.Pairwise fun x y =>
      (a.rilTimerAdd ev tv now).watch.deadline x ≤ (a.rilTimerAdd ev tv now).watch.deadline y := by
  have hself := (armTimer_event_self a.watch ev (now.timeradd tv) a.log.adds.length).2
  refine insert_sorted (h.armTimer hev (now.timeradd tv) a.log.adds.length).sorted fun x hx => ?_
  have hkeep := armTimer_event_of_mem hev (mem_append_left _ hx) (now.timeradd tv)
    a.log.adds.length
  simp only [ListLoop.rilTimerAdd, WatchState.deadline, hself, hkeep]
  exact h.dueBefore_iff hinv hdeadline x hx

lemma TimerInv.ids_rilTimerAdd :
    ((a.rilTimerAdd ev tv now).timerIds ++ (a.rilTimerAdd ev tv now).dueList.map TimerDue.id).Perm
      (List.range (a.rilTimerAdd ev tv now).log.adds.length) := by
  have harmed := h.armTimer hev (now.timeradd tv) a.log.adds.length
  have hself := (armTimer_event_self a.watch ev (now.timeradd tv) a.log.adds.length).1
  set w := a.watch.armTimer ev (now.timeradd tv) a.log.adds.length
  have hids := ((insert_perm (a.watch.dueBefore (now.timeradd tv)) ev a.timers).filterMap
    fun ev' => (w.event ev').timerId).append_right
      (({ a with watch := w } : ListLoop).dueList.map TimerDue.id)
  rw [filterMap_cons_some (f := fun ev' => (w.event ev').timerId) hself] at hids
  refine hids.trans ?_
  have hlen : (a.rilTimerAdd ev tv now).log.adds.length = a.log.adds.length + 1 := by
    simp [ListLoop.rilTimerAdd]
  rw [hlen, range_succ]
  exact (List.Perm.cons _ harmed.ids).trans (perm_append_singleton _ _).symm

lemma TimerInv.rilTimerAdd (hinv : a.Inv) (htv : tv.WellFormed) (hfits : (now.timeradd tv).Fits)
    (hnow : a.log.Later now) : (a.rilTimerAdd ev tv now).TimerInv := by
  have hdeadline := Timeval.timeradd_wellFormed hnow.1 htv hfits
  have harmed := h.armTimer hev (now.timeradd tv) a.log.adds.length
  have hself := armTimer_event_self a.watch ev (now.timeradd tv) a.log.adds.length
  refine ⟨fun add hadd => ?_, fun ev' hmem id hid => ?_, h.sorted_rilTimerAdd hev hinv hdeadline,
    h.ids_rilTimerAdd hev, fun d hd => ?_, harmed.ordered, fun now' hnow' => ?_, h.fired, h.done_le,
    h.done_lt⟩
  · rcases mem_append.mp hadd with hold | hnew
    · exact h.adds add hold
    · rcases mem_singleton.mp hnew with rfl
      exact ⟨hdeadline, le_refl _⟩
  · rcases mem_cons.mp ((insert_perm _ ev a.timers).mem_iff.mp hmem) with rfl | hold
    · cases hself.1.symm.trans hid
      exact ⟨⟨now.timeradd tv, a.log.readings.length⟩, by simp [ListLoop.rilTimerAdd], hself.2.symm,
        TimerAdd.notPast_of_length_le (le_refl _)⟩
    · rcases harmed.armed ev' hold id hid with ⟨add, hget, hrest⟩
      exact ⟨add, getElem?_append_of_eq_some hget _, hrest⟩
  · rcases harmed.due d hd with ⟨add, hget, hrest⟩
    exact ⟨add, getElem?_append_of_eq_some hget _, hrest⟩
  · exact (h.clock now' hnow').trans hnow.2.2

end Arm

lemma map_id_due (w : WatchState) (iter : ℕ) (l : List ℕ) :
    (l.filterMap fun ev => (w.event ev).due iter).map TimerDue.id
      = l.filterMap fun ev => (w.event ev).timerId := by
  rw [map_filterMap]
  refine filterMap_congr fun ev _ => ?_
  simp [RilEvent.due, Function.comp_def]

/-- The timers that the reading `now` finds expired. -/
def expired (a : ListLoop) (now : Timeval) : List TimerDue :=
  (a.timers.takeWhile (a.watch.dueBefore now)).filterMap
    fun ev => (a.watch.event ev).due a.log.readings.length

lemma dueList_processTimeouts (hnil : a.pending = []) (now : Timeval) (phase : LoopPhase) :
    ({ a.processTimeouts now with phase := phase } : ListLoop).dueList
      = a.dueList ++ a.expired now := by
  simp [dueList, expired, ListLoop.processTimeouts, hnil]

lemma TimerInv.of_mem_expired (h : a.TimerInv) (hinv : a.Inv) (hnow : now.WellFormed) :
    ∀ d ∈ a.expired now, d.iter = a.log.readings.length
      ∧ ∃ add, a.log.adds[d.id]? = some add ∧ add.deadline = d.deadline
        ∧ add.FirstPast (a.log.readings ++ [now]) d.iter := by
  intro d hd
  rcases mem_filterMap.mp hd with ⟨ev, hev, hsome⟩
  rcases map_eq_some_iff.mp hsome with ⟨id, hid, rfl⟩
  rcases h.armed ev ((takeWhile_sublist _).subset hev) id hid with ⟨add, hget, hadd, hnot⟩
  have hlt : add.deadline.micros < now.micros := by
    rw [hadd]
    exact lt_of_mem_takeWhile (h.dueBefore_iff hinv hnow) ev hev
  exact ⟨rfl, add, hget, hadd, hnot.firstPast (h.adds add (mem_of_getElem? hget)).2 hlt⟩

lemma TimerInv.ids_processTimeouts (h : a.TimerInv) (now : Timeval) :
    (((a.timers.dropWhile (a.watch.dueBefore now)).filterMap fun ev => (a.watch.event ev).timerId)
      ++ (a.dueList ++ a.expired now).map TimerDue.id).Perm (List.range a.log.adds.length) := by
  have hids := h.ids
  rw [timerIds, ← takeWhile_append_dropWhile (p := a.watch.dueBefore now) (l := a.timers), filterMap_append] at hids
  rw [append_assoc] at hids
  rw [map_append, expired, map_id_due, ← append_assoc]
  exact perm_append_comm.trans hids

lemma TimerInv.ordered_processTimeouts (h : a.TimerInv) (hinv : a.Inv) (hnow : now.WellFormed) :
    (a.dueList ++ a.expired now).Pairwise fun d d' =>
      d.iter = d'.iter → d.deadline.micros ≤ d'.deadline.micros := by
  refine pairwise_append.mpr ⟨h.ordered, ?_, fun d hd d' hd' heq => ?_⟩
  · refine (List.Pairwise.filterMap (R := fun x y => a.watch.deadline x ≤ a.watch.deadline y) _
      (fun x y hxy d hd d' hd' _ => ?_) (h.sorted.sublist (takeWhile_sublist _)))
    rcases map_eq_some_iff.mp hd with ⟨id, _, rfl⟩
    rcases map_eq_some_iff.mp hd' with ⟨id', _, rfl⟩
    exact hxy
  · -- the earlier ones are of earlier iterations
    rcases h.due d hd with ⟨add, _, _, hfirst⟩
    have hlt := hfirst.lt_length
    have hiter := (h.of_mem_expired hinv hnow d' hd').1
    omega

lemma TimerInv.processTimeouts (h : a.TimerInv) (hinv : a.Inv) {rfds : Finset ℤ}
    (hphase : a.phase = .selected rfds) (hnow : a.log.Later now) :
    ({ a.processTimeouts now with phase := .timeoutsDone rfds } : ListLoop).TimerInv := by
  have hnil := hinv.pending_nil (.inr (.inr ⟨rfds, hphase⟩))
  have hdue := dueList_processTimeouts hnil now (.timeoutsDone rfds)
  have hlength : (a.processTimeouts now).log.readings.length = a.log.readings.length + 1 := by
    simp [ListLoop.processTimeouts]
  refine ⟨fun add hadd => ⟨(h.adds add hadd).1, ?_⟩, fun ev hev id hid => ?_,
    h.sorted.sublist (dropWhile_sublist _), ?_, fun d hd => ?_, ?_, fun now' hnow' => ?_,
    h.fired, ?_, fun _ => ?_⟩
  · exact ((h.adds add hadd).2.trans (Nat.le_succ _)).trans_eq hlength.symm
  · rcases h.armed ev ((dropWhile_sublist _).subset hev) id hid with ⟨add, hget, hadd, hnot⟩
    refine ⟨add, hget, hadd, hnot.append ?_⟩
    rw [hadd]
    exact le_of_mem_dropWhile h.sorted (h.dueBefore_iff hinv hnow.1) ev hev
  · rw [hdue]
    exact h.ids_processTimeouts now
  · rw [hdue] at hd
    rcases mem_append.mp hd with hold | hd
    · rcases h.due d hold with ⟨add, hget, hadd, hfirst⟩
      exact ⟨add, hget, hadd, hfirst.append now⟩
    · exact (h.of_mem_expired hinv hnow.1 d hd).2
  · rw [hdue]
    exact h.ordered_processTimeouts hinv hnow.1
  · rcases mem_append.mp hnow' with hold | hself
    · exact (h.clock now' hold).trans hnow.2.2
    · rcases mem_singleton.mp hself with rfl
      exact le_refl _
  · exact (h.done_le.trans (Nat.le_succ _)).trans_eq hlength.symm
  · exact (Nat.lt_succ_of_le h.done_le).trans_eq hlength.symm

lemma TimerInv.processReadReadies (h : a.TimerInv) (hinv : a.Inv) {rfds : Finset ℤ}
    (hphase : a.phase = .timeoutsDone rfds) :
    ({ a.processReadReadies rfds with phase := .readiesDone } : ListLoop).TimerInv := by
  have hscan := WatchState.readyScan_spec hinv.watch rfds
  have hwatch := h.of_watch fun ev _ => ⟨hscan.same.timerId_eq ev, hscan.same.timeout_eq ev⟩
  have hnone : ∀ ev ∈ (a.watch.readyScan rfds (List.finRange maxFdEvents) rfds.card).1, ∀ iter,
      ((a.watch.readyScan rfds (List.finRange maxFdEvents) rfds.card).2.event ev).due iter = none := by
    intro ev hev iter
    have hold : (a.watch.event ev).timerId = none := by
      by_contra htimer
      exact hinv.not_watched htimer (((hscan.queued hinv.watch).2 ev).mp hev).1
    simp [RilEvent.due, hscan.same.timerId_eq ev, hold]
  have hdue : ({ a.processReadReadies rfds with phase := .readiesDone } : ListLoop).dueList
      = ({ a with watch := (a.watch.readyScan rfds (List.finRange maxFdEvents) rfds.card).2 } :
        ListLoop).dueList := by
    simp only [dueList, ListLoop.processReadReadies, filterMap_append]
    rw [filterMap_eq_nil_iff.mpr fun ev hev => hnone ev hev _, append_nil]
  refine ⟨hwatch.adds, hwatch.armed, hwatch.sorted, ?_, ?_, ?_, hwatch.clock, hwatch.fired,
    hwatch.done_le, fun _ => h.done_lt (.inr ⟨rfds, hphase⟩)⟩
  · rw [hdue]
    exact hwatch.ids
  · rw [hdue]
    exact hwatch.due
  · rw [hdue]
    exact hwatch.ordered

lemma TimerInv.fire (h : a.TimerInv) {rest : List ℕ}
    (hcons : a.pending = ev :: rest) (hphase : ∀ rfds, a.phase ≠ .timeoutsDone rfds) :
    ({ a with pending := rest, log := a.log.fired (a.watch.event ev) } : ListLoop).TimerInv := by
  have hdue : ({ a with pending := rest, log := a.log.fired (a.watch.event ev) } : ListLoop).dueList
      = a.dueList := by
    simp only [dueList, hcons, LoopLog.fired, map_append, append_assoc, List.map_map]
    cases hd : (a.watch.event ev).due (a.log.readings.length - 1) <;> simp [hd]
  refine ⟨h.adds, h.armed, h.sorted, ?_, ?_, ?_, h.clock, fun f hf => ?_, h.done_le, ?_⟩
  · rw [hdue]
    exact h.ids
  · rw [hdue]
    exact h.due
  · rw [hdue]
    exact h.ordered
  · rcases mem_append.mp hf with hold | hnew
    · exact h.fired f hold
    · rcases mem_map.mp hnew with ⟨d, hd, rfl⟩
      have hd : (a.watch.event ev).due (a.log.readings.length - 1) = some d := mem_toList.mp hd
      have hmem : d ∈ a.dueList := by
        refine mem_append_right _ (mem_filterMap.mpr ⟨ev, ?_, hd⟩)
        rw [hcons]
        exact mem_cons_self
      rcases h.due d hmem with ⟨add, _, hdeadline, hfirst⟩
      rcases hfirst.past with ⟨now, hget, hlt⟩
      rw [hdeadline] at hlt
      exact hlt.trans_le (h.clock now (mem_of_getElem? hget))
  · rintro (_ | ⟨rfds, hr⟩)
    · exact h.done_lt (.inl (by simp [hcons]))
    · exact absurd hr (hphase rfds)

/-- **One step keeps the timers.** -/
lemma Step.timerInv {a' : ListLoop} {act : LoopAct} (hstep : Step a act a') (h : a.TimerInv) (hinv : a.Inv) :
    a'.TimerInv := by
  cases hstep with
  | @rilEventSet ev fd persist haddr hev hwatched =>
    refine h.of_watch fun ev' hmem => ?_
    have hne : ev' ≠ ev := fun heq => hev (heq ▸ hmem)
    simp [WatchState.rilEventSet, Function.update_of_ne hne]
  | rilEventAdd hadd =>
    rcases hadd with ⟨hinit, hfd, hwatched, hfree, hroom⟩
    have hsame := (hinv.watch.rilEventAdd hwatched hinit hfd hfree hroom).2
    exact h.of_watch fun ev' _ => ⟨hsame.timerId_eq ev', hsame.timeout_eq ev'⟩
  | rilEventDel hinit =>
    have hsame := (hinv.watch.rilEventDel hinit).2.1
    exact h.of_watch fun ev' _ => ⟨hsame.timerId_eq ev', hsame.timeout_eq ev'⟩
  | rilTimerAdd hinit hev hwatched htv hfits hnow => exact h.rilTimerAdd hev hinv htv hfits hnow
  | calcNextTimeout hphase hnow => exact h.of_phase (by simp) hnow.2.2
  | ready | interrupted | failed | firePending => exact h.of_phase (by simp) (le_refl _)
  | processTimeouts hphase hnow => exact h.processTimeouts hinv hphase hnow
  | processReadReadies hphase => exact h.processReadReadies hinv hphase
  | fired hphase hnil =>
    exact ⟨h.adds, h.armed, h.sorted, h.ids, h.due, h.ordered, h.clock, h.fired, le_refl _,
      by simp [hnil]⟩
  | fire hphase hcons => exact h.fire hcons (by simp [hphase])

/-- A timer whose first iteration past its deadline has ended was called back in it. -/
lemma TimerInv.fired_of_done (h : a.TimerInv) {id iter : ℕ}
    {add : TimerAdd} (hadd : a.log.adds[id]? = some add) (hdone : iter < a.log.done)
    (hfirst : add.FirstPast a.log.readings iter) : ∃ f ∈ a.log.fires, f.id = id ∧ f.iter = iter := by
  have hid : id ∈ a.timerIds ++ a.dueList.map TimerDue.id :=
    h.ids.mem_iff.mpr (mem_range.mpr (List.getElem?_eq_some_iff.mp hadd).1)
  rcases mem_append.mp hid with hwait | hdue
  · -- it does not wait any more
    rcases mem_filterMap.mp hwait with ⟨ev, hev, htimer⟩
    rcases h.armed ev hev id htimer with ⟨add', hadd', _, hnot⟩
    cases hadd.symm.trans hadd'
    rcases hfirst.past with ⟨now, hget, hlt⟩
    exact absurd (hnot iter now hfirst.added hget) (not_le.mpr hlt)
  · rcases mem_map.mp hdue with ⟨d, hd, rfl⟩
    rcases h.due d hd with ⟨add', hadd', _, hfirst'⟩
    cases hadd.symm.trans hadd'
    have hiter := hfirst'.iter_eq hfirst
    rcases mem_append.mp hd with hfires | hpending
    · rcases mem_map.mp hfires with ⟨f, hf, rfl⟩
      exact ⟨f, hf, rfl, hiter⟩
    · -- what is pending is of the iteration that has not ended
      rcases mem_filterMap.mp hpending with ⟨ev, hev, hsome⟩
      rcases map_eq_some_iff.mp hsome with ⟨_, _, rfl⟩
      have hopen := h.done_lt (.inl (ne_nil_of_mem hev))
      dsimp only at hiter
      omega

/-- `calcNextTimeout` waits for the first timer at most, and the list is sorted. -/
lemma TimerInv.nextTimeout_le (h : a.TimerInv) (hinv : a.Inv)
    (hnow : a.log.Later now) (htv : a.watch.nextTimeout a.timers.head? now = some tv) :
    tv.WellFormed ∧ ∀ ev ∈ a.timers, tv.micros ≤ max 0 (a.watch.deadline ev - now.micros) := by
  rcases map_eq_some_iff.mp htv with ⟨first, hfirst, rfl⟩
  rcases List.head?_eq_some_iff.mp hfirst with ⟨rest, hcons⟩
  have hmem : first ∈ a.timers := by simp [hcons]
  rcases ne_none_iff_exists'.mp (hinv.timers_timer first hmem) with ⟨id, hid⟩
  rcases h.armed first hmem id hid with ⟨add, hadd, hdeadline, _⟩
  have hwf := (h.adds add (mem_of_getElem? hadd)).1
  rw [hdeadline] at hwf
  have hle : ∀ ev ∈ a.timers, a.watch.deadline first ≤ a.watch.deadline ev := by
    have hsorted := h.sorted
    rw [hcons] at hsorted ⊢
    intro ev hev
    rcases mem_cons.mp hev with rfl | hev
    · exact le_refl _
    · exact (pairwise_cons.mp hsorted).1 ev hev
  split_ifs with hlt
  · refine ⟨Timeval.timersub_wellFormed hwf hnow.1 hnow.2.1 hlt, fun ev hev => le_max_of_le_right ?_⟩
    rw [Timeval.micros_timersub]
    exact Int.sub_le_sub_right (hle ev hev) _
  · exact ⟨by decide, fun ev _ => le_max_left _ _⟩

end ListLoop

/-! ## The timers of the code -/

namespace EventLoop

structure TimersOk (s : EventLoop) : Prop where
  circular : Ring s.links timerList s.timers
  sorted : s.timers.Pairwise fun x y => s.watch.deadline x ≤ s.watch.deadline y
  once : (s.log.fires.map fun f => f.id).Nodup
  not_early : ∀ f ∈ s.log.fires, f.deadline.micros < f.clock.micros
  ordered : s.log.fires.Pairwise fun f f' =>
    f.iter = f'.iter → f.deadline.micros ≤ f'.deadline.micros
  /-- A timer called back was added, and it is the first iteration past its deadline. -/
  first_past : ∀ f ∈ s.log.fires, ∃ add, s.log.adds[f.id]? = some add ∧ add.deadline = f.deadline
    ∧ add.FirstPast s.log.readings f.iter
  /-- A timer is called back in the first iteration past its deadline. -/
  fired : ∀ id add iter, s.log.adds[id]? = some add → iter < s.log.done →
    add.FirstPast s.log.readings iter → ∃ f ∈ s.log.fires, f.id = id ∧ f.iter = iter
  /-- `select` is not asked to wait past a deadline. -/
  timeout_le : ∀ now s', s.step (.calcNextTimeout now) = some s' →
    ∃ ptv, s'.phase = .selecting ptv ∧ (ptv = none ↔ s.timers = []) ∧ ∀ tv, ptv = some tv →
      tv.WellFormed ∧ ∀ ev ∈ s.timers, tv.micros ≤ max 0 (s.watch.deadline ev - now.micros)

/-- **The event loop refines its lists**, along whole runs. -/
lemma run_timerInv {event : ℕ → RilEvent} {links : Links ℕ} {clock : Timeval} {acts : List LoopAct} {s : EventLoop}
    (hrun : run step (init event links clock) acts = some s) : ∃ a, Abs s a ∧ a.Inv ∧ a.TimerInv := by
  refine run_invariant (I := fun s => ∃ a, Abs s a ∧ a.Inv ∧ a.TimerInv) ?_ ?_ hrun
  · rintro s act s' ⟨a, habs, hinv, h⟩ hs'
    obtain ⟨a', ha', habs'⟩ := step_abs habs hinv hs'
    exact ⟨a', habs', ha'.inv hinv, ha'.timerInv h hinv⟩
  · exact ⟨_, init_abs event links clock, ListLoop.init_inv event clock, ListLoop.init_timerInv event clock⟩

/-- **Timers**, for every interleaving of additions with the iterations of the loop. -/
theorem timers_ok (event : ℕ → RilEvent) (links : Links ℕ) (clock : Timeval) (acts : List LoopAct)
    (s : EventLoop) (hrun : run step (init event links clock) acts = some s) : s.TimersOk := by
  obtain ⟨a, habs, hinv, h⟩ := run_timerInv hrun
  have hfires : (s.log.fires.map TimerFire.toTimerDue).Sublist a.dueList := by
    rw [← habs.log_eq]
    exact sublist_append_left _ _
  have hids : (a.dueList.map TimerDue.id).Nodup :=
    (nodup_append.mp (h.ids.nodup_iff.mpr nodup_range)).2.1
  refine ⟨?_, ?_, ?_, ?_, ?_, fun f hf => ?_, ?_, fun now s' hs' => ?_⟩
  · rw [habs.timers_eq]
    exact habs.timers
  · rw [habs.timers_eq, ← habs.watch_eq]
    exact h.sorted
  · have hnodup := hids.sublist (hfires.map TimerDue.id)
    rwa [List.map_map] at hnodup
  · rw [← habs.log_eq]
    exact h.fired
  · exact pairwise_map.mp (h.ordered.sublist hfires)
  · rw [← habs.log_eq]
    exact h.due f.toTimerDue (hfires.subset (mem_map_of_mem hf))
  · rw [← habs.log_eq]
    exact fun id add iter hadd hdone hfirst => h.fired_of_done hadd hdone hfirst
  · rcases step_abs habs hinv hs' with ⟨a', ha', habs'⟩
    cases ha' with
    | calcNextTimeout hphase hnow =>
      rw [habs.timers_eq, ← habs.watch_eq]
      refine ⟨_, habs'.phase_eq.symm, ?_, fun tv htv => h.nextTimeout_le hinv hnow htv⟩
      simp [WatchState.nextTimeout]

/-- Three timers, the last added by the callback of the first; two of them expire together. -/
def timerRun : List LoopAct :=
  [.rilEventSet 3 (-1) false, .rilEventSet 4 (-1) false, .rilEventSet 5 (-1) false,
    .rilTimerAdd 3 ⟨2, 700000⟩ ⟨10, 500000⟩, .rilTimerAdd 4 ⟨1, 0⟩ ⟨10, 600000⟩,
    .calcNextTimeout ⟨10, 700000⟩, .select (.ready ∅), .processTimeouts ⟨13, 500000⟩,
    .processReadReadies, .firePending, .fire, .rilTimerAdd 5 ⟨0, 0⟩ ⟨13, 600000⟩, .fire, .fire]

theorem timers_ok_timerRun :
    ∃ s, run step (init (fun _ => default) ⟨fun _ => 0, fun _ => 0⟩ ⟨0, 0⟩) timerRun = some s
      ∧ s.log.fires.map (fun f => f.id) = [1, 0] ∧ s.timers = [5] ∧ s.TimersOk := by
  have hrun : ((run step (init (fun _ => default) ⟨fun _ => 0, fun _ => 0⟩ ⟨0, 0⟩) timerRun).map
      fun s => (s.log.fires.map (fun f => f.id), s.timers)) = some ([1, 0], [5]) := by
    decide +kernel
  rcases map_eq_some_iff.mp hrun with ⟨s, hs, heq⟩
  rcases Prod.mk.inj heq with ⟨hfires, htimers⟩
  exact ⟨s, hs, hfires, htimers, timers_ok _ _ _ _ s hs⟩

end EventLoop

end Hal
