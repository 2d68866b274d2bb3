import Mathlib.Data.List.Induction
import DeviceHal.Core.Machine
import DeviceHal.Core.KeyedVector

/-!
# The software watchdog

A thread sets an anchor before it does something that should not take long, and deletes it afterwards.  The watchdog's
own thread looks through the table of anchors from time to time, and calls `onTimeout` for those that are too old.
`onSetAnchor` is called before the anchor is in the table, and `onDelAnchor` after it was taken out, both without the
lock; `delAnchor` looks the anchor up under the lock for reading, gives it back, and removes it under the lock for
writing.  An anchor is known by its address, which may be used again.

* `Callback`, `AnchorProtocol` — what the recipient of the calls may expect, as a machine over the calls: an address is
  set, may time out, and is deleted by the thread that set it, before it is set again.  `live_since` says what a run of
  it means for the sequence of calls.
* `WatchDog` — the table and the calls that are on their way, with one step for each part that holds the lock, and one
  for each call to a recipient.
* `Inv` — what is found is in the table, the rest is not; no two calls have the same anchor, because the thread that may
  delete it does one thing at a time.
* `Move` — what a step can do; `Inv.move` and `Follows.move` go through it once each.
* **`watchdog_protocol`** — all calls of any interleaving follow the protocol.
-/

namespace Hal

open List Option SortedVector

structure WdtAnchor where
  id : ℕ
  mAnchorTime : ℤ
  mThreshold : ℤ
  mMsg : String
  mTid : ℕ
  mNotify : Option ℕ
deriving DecidableEq

/-- `isTimeout` with a time, which is not 0. -/
def WdtAnchor.isTimeout (a : WdtAnchor) (now : ℤ) : Bool := a.mAnchorTime ≠ 0 ∧ a.mThreshold < now - a.mAnchorTime

/-- The calls to the recipient, with the thread that makes them. -/
inductive Callback where
  | onSetAnchor (caller : ℕ) (a : WdtAnchor)
  | onTimeout (a : WdtAnchor) (now : ℤ)
  | onDelAnchor (caller id : ℕ) (a : WdtAnchor)

/-! ## What a recipient may expect -/

namespace AnchorProtocol

/-- One call.  The state has, under each address in use, the thread that has set the anchor, and the anchor. -/
def step (live : KeyedVector (ℕ × WdtAnchor)) : Callback → Option (KeyedVector (ℕ × WdtAnchor))
  | .onSetAnchor caller a => if live.valueFor a.id = none then some (live.add a.id (caller, a)) else none
  | .onTimeout a _ => if (live.valueFor a.id).map Prod.snd = some a then some live else none
  | .onDelAnchor caller id a => if live.valueFor id = some (caller, a) then some (live.removeItem id) else none

/-- `onSetAnchor` was called by that thread for the anchor, and no `onDelAnchor` since. -/
def SetSince (log : List Callback) (caller : ℕ) (a : WdtAnchor) : Prop :=
  ∃ before after, log = before ++ .onSetAnchor caller a :: after
    ∧ ∀ caller' id, .onDelAnchor caller' id a ∉ after

lemma SetSince.concat {log : List Callback} {caller : ℕ} {a : WdtAnchor} (h : SetSince log caller a) {e : Callback}
    (he : ∀ caller' id, e ≠ .onDelAnchor caller' id a) : SetSince (log ++ [e]) caller a := by
  obtain ⟨before, after, rfl, hafter⟩ := h
  refine ⟨before, after ++ [e], by simp, fun caller' id hmem => ?_⟩
  rcases mem_append.mp hmem with hmem | hmem
  · exact hafter caller' id hmem
  · exact he caller' id (mem_singleton.mp hmem).symm

/-- **What is live has been set**, by the thread that is noted, and not deleted since. -/
theorem live_since {log : List Callback} : ∀ {live : KeyedVector (ℕ × WdtAnchor)}, run step .empty log = some live →
    ∀ {id caller : ℕ} {a : WdtAnchor}, live.valueFor id = some (caller, a) → a.id = id ∧ SetSince log caller a := by
  induction log using List.reverseRecOn with
  | nil =>
    intro live hrun id caller a hlive
    cases hrun
    exact absurd hlive.symm (some_ne_none _)
  | append_singleton log e ih =>
    intro live hrun id caller a hlive
    obtain ⟨m, hm, hlast⟩ := run_append.mp hrun
    obtain ⟨m', hstep, hm'⟩ := run_cons_eq_some.mp hlast
    cases hm'
    cases e with
    | onSetAnchor caller' a' =>
      obtain ⟨-, rfl⟩ := ite_some_none_eq_some.mp hstep
      rw [valueFor_add] at hlive
      split_ifs at hlive with hid
      · cases hlive
        exact ⟨hid.symm, log, [], rfl, fun _ _ => not_mem_nil⟩
      · obtain ⟨hkey, hsince⟩ := ih hm hlive
        exact ⟨hkey, hsince.concat fun _ _ h => nomatch h⟩
    | onTimeout a' now =>
      obtain ⟨-, rfl⟩ := ite_some_none_eq_some.mp hstep
      obtain ⟨hkey, hsince⟩ := ih hm hlive
      exact ⟨hkey, hsince.concat fun _ _ h => nomatch h⟩
    | onDelAnchor caller' id' a' =>
      obtain ⟨hown, rfl⟩ := ite_some_none_eq_some.mp hstep
      rw [valueFor_removeItem] at hlive
      split_ifs at hlive with hid
      obtain ⟨hkey, hsince⟩ := ih hm hlive
      refine ⟨hkey, hsince.concat fun _ _ h => ?_⟩
      -- what is deleted has another address
      cases h
      exact hid (hkey.symm.trans (ih hm hown).1)

lemma run_timeouts {live : KeyedVector (ℕ × WdtAnchor)} {now : ℤ} {as : List WdtAnchor}
    (h : ∀ a ∈ as, (live.valueFor a.id).map Prod.snd = some a) :
    run step live (as.map (.onTimeout · now)) = some live := by
  induction as with
  | nil => rfl
  | cons a as ih =>
    refine run_cons_eq_some.mpr ⟨live, if_pos (h a mem_cons_self), ih fun b hb => ?_⟩
    exact h b (mem_cons_of_mem a hb)

end AnchorProtocol

/-! ## The watchdog -/

/-- How far a call is: `setAnchor` has called `onSetAnchor`; `delAnchor` has found the anchor, or has removed it. -/
inductive WdtPhase where
  | setting
  | found
  | removed
deriving DecidableEq

/-- A call on its way, which holds its anchor. -/
structure WdtCall where
  phase : WdtPhase
  caller : ℕ
  id : ℕ
  anchor : WdtAnchor
deriving DecidableEq

structure WatchDog where
  mAnchorTable : KeyedVector WdtAnchor
  calls : List WdtCall

inductive WdtAct where
  | setAnchor (tid id : ℕ) (notify : Option ℕ) (time threshold : ℤ) (msg : String)
  | insert (call : WdtCall)
  | lookup (tid id : ℕ)
  | remove (call : WdtCall)
  | retire (call : WdtCall)
  | tick (now : ℤ)

namespace WatchDog

/-- The thread is in the middle of `delAnchor`.  In `onSetAnchor` and in `onDelAnchor` it may begin other calls. -/
def Busy (s : WatchDog) (tid : ℕ) : Prop := ∃ c ∈ s.calls, c.phase ≠ .setting ∧ c.caller = tid

instance (s : WatchDog) (tid : ℕ) : Decidable (s.Busy tid) :=
  inferInstanceAs (Decidable (∃ c ∈ s.calls, c.phase ≠ .setting ∧ c.caller = tid))

/-- A new anchor has an address that no other has. -/
def Fresh (s : WatchDog) (id : ℕ) : Prop :=
  id ≠ 0 ∧ s.mAnchorTable.valueFor id = none ∧ ∀ c ∈ s.calls, c.anchor.id ≠ id

instance (s : WatchDog) (id : ℕ) : Decidable (s.Fresh id) :=
  inferInstanceAs (Decidable (id ≠ 0 ∧ s.mAnchorTable.valueFor id = none ∧ ∀ c ∈ s.calls, c.anchor.id ≠ id))

/-- One round of the loop of `threadLoop`. -/
def checkAnchor (now : ℤ) : Option WdtAnchor → List Callback
  | none => []
  | some a =>
    match a.mNotify with
    | none => []
    | some _ => if a.isTimeout now then [.onTimeout a now] else []

def tickCallbacks (s : WatchDog) (now : ℤ) : List Callback :=
  (List.range s.mAnchorTable.size).flatMap fun idx => checkAnchor now (s.mAnchorTable.valueAt idx)

/-- One step; `none` if it cannot be the next one.  The clock is never 0. -/
def step (s : WatchDog) : WdtAct → Option WatchDog
  -- `setAnchor` up to and with `onSetAnchor`
  | .setAnchor tid id notify time threshold msg =>
    match notify with
    | none => some s
    | some n =>
      if ¬ s.Busy tid ∧ s.Fresh id ∧ 0 < time then
        some { s with calls := ⟨.setting, tid, id, ⟨id, time, threshold, msg, tid, some n⟩⟩ :: s.calls }
      else none
  -- its end, with the lock for writing
  | .insert call =>
    if call ∈ s.calls ∧ call.phase = .setting then
      some ⟨s.mAnchorTable.add call.id call.anchor, s.calls.erase call⟩
    else none
  -- `delAnchor`, with the lock for reading
  | .lookup tid id =>
    if s.Busy tid then none
    else
      match s.mAnchorTable.valueFor id with
      | none => some s
      | some a => if a.mTid ≠ tid then some s else some { s with calls := ⟨.found, tid, id, a⟩ :: s.calls }
  -- with the lock for writing
  | .remove call =>
    if call ∈ s.calls ∧ call.phase = .found then
      some ⟨s.mAnchorTable.removeItem call.id, { call with phase := .removed } :: s.calls.erase call⟩
    else none
  -- `onDelAnchor`
  | .retire call =>
    if call ∈ s.calls ∧ call.phase = .removed then some { s with calls := s.calls.erase call } else none
  -- the loop, with the lock for reading and a time read before
  | .tick now => if 0 < now then some s else none

/-- The calls to recipients that a step makes. -/
def callbacks (s : WatchDog) : WdtAct → List Callback
  | .setAnchor tid id notify time threshold msg =>
    match notify with
    | none => []
    | some n => [.onSetAnchor tid ⟨id, time, threshold, msg, tid, some n⟩]
  | .retire call => [.onDelAnchor call.caller call.id call.anchor]
  | .tick now => s.tickCallbacks now
  | .insert _ => []
  | .lookup _ _ => []
  | .remove _ => []

def start : WatchDog := ⟨.empty, []⟩

/-! ## The invariant -/

/-- An anchor as `setAnchor` makes it, at its address. -/
structure AnchorOk (id : ℕ) (a : WdtAnchor) : Prop where
  id_eq : a.id = id
  time_pos : 0 < a.mAnchorTime
  notify : a.mNotify.isSome

structure CallOk (table : KeyedVector WdtAnchor) (c : WdtCall) : Prop where
  anchor : AnchorOk c.id c.anchor
  caller : c.caller = c.anchor.mTid
  found : c.phase = .found → table.valueFor c.id = some c.anchor
  notFound : c.phase ≠ .found → table.valueFor c.id = none

structure Inv (s : WatchDog) : Prop where
  table : ∀ id a, s.mAnchorTable.valueFor id = some a → AnchorOk id a
  calls : ∀ c ∈ s.calls, CallOk s.mAnchorTable c
  once : (s.calls.map WdtCall.id).Nodup

variable {s s' : WatchDog}

variable {c : WdtCall} {live : KeyedVector (ℕ × WdtAnchor)}

lemma Inv.mem_erase_iff (h : s.Inv) {c' : WdtCall} (hc : c ∈ s.calls) :
    c' ∈ s.calls.erase c ↔ c' ∈ s.calls ∧ c'.id ≠ c.id := by
  have hnodup : s.calls.Nodup := List.Nodup.of_map WdtCall.id h.once
  rw [hnodup.mem_erase_iff, and_comm]
  refine and_congr_right fun hc' => not_congr ⟨fun heq => congrArg WdtCall.id heq, fun hid => ?_⟩
  exact inj_on_of_nodup_map h.once hc' hc hid

variable {id : ℕ} {a : WdtAnchor}

/-- **Nobody else deletes the anchor**: a thread that finds one of its own, and is not in the middle of another
`delAnchor`, is the only one with it. -/
lemma Inv.lookup_new (h : s.Inv) {tid : ℕ} (hfree : ¬ s.Busy tid)
    (ha : s.mAnchorTable.valueFor id = some a) (htid : a.mTid = tid) : ∀ c ∈ s.calls, c.id ≠ id := by
  rintro c hc rfl
  have hok := h.calls c hc
  by_cases hphase : c.phase = .found
  · have heq : c.anchor = a := Option.some.inj ((hok.found hphase).symm.trans ha)
    refine hfree ⟨c, hc, by simp [hphase], ?_⟩
    rw [hok.caller, heq, htid]
  · exact absurd ((hok.notFound hphase).symm.trans ha).symm (some_ne_none a)

lemma inv_start : start.Inv :=
  ⟨fun _ a h => absurd h.symm (some_ne_none a), fun _ h => absurd h not_mem_nil, nodup_nil⟩

/-! ### The moves -/

/-- What a step can do to the table and to the calls, and the calls to recipients that it makes. -/
inductive Move (s : WatchDog) : WatchDog → List Callback → Prop
  | stay : Move s s []
  | announce {tid : ℕ} {a : WdtAnchor} (hfresh : s.Fresh a.id) (hanchor : AnchorOk a.id a) (htid : a.mTid = tid) :
      Move s { s with calls := ⟨.setting, tid, a.id, a⟩ :: s.calls } [.onSetAnchor tid a]
  | insert {c : WdtCall} (hc : c ∈ s.calls) (hphase : c.phase = .setting) :
      Move s ⟨s.mAnchorTable.add c.id c.anchor, s.calls.erase c⟩ []
  | find {tid id : ℕ} {a : WdtAnchor} (hfree : ¬ s.Busy tid) (ha : s.mAnchorTable.valueFor id = some a)
      (htid : a.mTid = tid) : Move s { s with calls := ⟨.found, tid, id, a⟩ :: s.calls } []
  | remove {c : WdtCall} (hc : c ∈ s.calls) (hphase : c.phase = .found) :
      Move s ⟨s.mAnchorTable.removeItem c.id, { c with phase := .removed } :: s.calls.erase c⟩ []
  | retire {c : WdtCall} (hc : c ∈ s.calls) (hphase : c.phase = .removed) :
      Move s { s with calls := s.calls.erase c } [.onDelAnchor c.caller c.id c.anchor]
  | tick (now : ℤ) : Move s s (s.tickCallbacks now)

lemma step_move {act : WdtAct} (hs' : s.step act = some s') : s.Move s' (s.callbacks act) := by
  cases act with
  | setAnchor tid id notify time threshold msg =>
    cases notify with
    | none =>
      cases hs'
      exact .stay
    | some n =>
      obtain ⟨⟨-, hfresh, htime⟩, rfl⟩ := ite_some_none_eq_some.mp hs'
      exact .announce (a := ⟨id, time, threshold, msg, tid, some n⟩) hfresh ⟨rfl, htime, rfl⟩ rfl
  | insert call =>
    obtain ⟨⟨hcall, hphase⟩, rfl⟩ := ite_some_none_eq_some.mp hs'
    exact .insert hcall hphase
  | lookup tid id =>
    obtain ⟨hfree, hs'⟩ := ite_none_left_eq_some.mp hs'
    cases ha : s.mAnchorTable.valueFor id with
    | none =>
      simp only [ha] at hs'
      cases hs'
      exact .stay
    | some a =>
      simp only [ha] at hs'
      split_ifs at hs' with htid
      · cases hs'
        exact .stay
      · cases hs'
        exact .find hfree ha (not_not.mp htid)
  | remove call =>
    obtain ⟨⟨hcall, hphase⟩, rfl⟩ := ite_some_none_eq_some.mp hs'
    exact .remove hcall hphase
  | retire call =>
    obtain ⟨⟨hcall, hphase⟩, rfl⟩ := ite_some_none_eq_some.mp hs'
    exact .retire hcall hphase
  | tick now =>
    obtain ⟨-, rfl⟩ := ite_some_none_eq_some.mp hs'
    exact .tick now

lemma Inv.newCall (h : s.Inv) (hok : CallOk s.mAnchorTable c) (hnew : ∀ c' ∈ s.calls, c'.id ≠ c.id) :
    Inv { s with calls := c :: s.calls } := by
  refine ⟨h.table, forall_mem_cons.mpr ⟨hok, h.calls⟩, nodup_cons.mpr ⟨fun hmem => ?_, h.once⟩⟩
  obtain ⟨c', hc', hid⟩ := mem_map.mp hmem
  exact hnew c' hc' hid

lemma Inv.endCall (h : s.Inv) (c : WdtCall) : Inv { s with calls := s.calls.erase c } :=
  ⟨h.table, fun c' hc' => h.calls c' (mem_of_mem_erase hc'), h.once.sublist (erase_sublist.map WdtCall.id)⟩

lemma Inv.changeAt (h : s.Inv) {table : KeyedVector WdtAnchor}
    (hself : ∀ a, table.valueFor id = some a → AnchorOk id a)
    (hothers : ∀ id' ≠ id, table.valueFor id' = s.mAnchorTable.valueFor id') (hcalls : ∀ c ∈ s.calls, c.id ≠ id) :
    Inv { s with mAnchorTable := table } := by
  refine ⟨fun id' a ha => ?_, fun c hc => ?_, h.once⟩
  · by_cases hid : id' = id
    · subst hid
      exact hself a ha
    · exact h.table id' a ((hothers id' hid).symm.trans ha)
  · have hok := h.calls c hc
    have heq := hothers c.id (hcalls c hc)
    exact ⟨hok.anchor, hok.caller, fun hphase => heq.trans (hok.found hphase),
      fun hphase => heq.trans (hok.notFound hphase)⟩

lemma Inv.move (h : s.Inv) {label : List Callback} (hmove : s.Move s' label) : s'.Inv := by
  cases hmove with
  | stay => exact h
  | announce hfresh hanchor htid =>
    refine h.newCall ⟨hanchor, htid.symm, fun hphase => (nomatch hphase), fun _ => hfresh.2.1⟩ fun c hc hid => ?_
    exact hfresh.2.2 c hc ((h.calls c hc).anchor.id_eq.trans hid)
  | insert hc hphase =>
    refine (h.endCall _).changeAt (fun a ha => ?_) (fun id hid => ?_) fun c' hc' => ((h.mem_erase_iff hc).mp hc').2
    · rw [valueFor_add, if_pos rfl] at ha
      exact Option.some.inj ha ▸ (h.calls _ hc).anchor
    · rw [valueFor_add, if_neg hid]
  | find hfree ha htid =>
    refine h.newCall ?_ (h.lookup_new hfree ha htid)
    exact ⟨h.table _ _ ha, htid.symm, fun _ => ha, fun hphase => absurd rfl hphase⟩
  | @remove c hc hphase =>
    have hok := h.calls c hc
    have hnone : (s.mAnchorTable.removeItem c.id).valueFor c.id = none := by
      rw [valueFor_removeItem, if_pos rfl]
    have hothers : ∀ c' ∈ s.calls.erase c, c'.id ≠ c.id := fun c' hc' => ((h.mem_erase_iff hc).mp hc').2
    have htable : Inv ⟨s.mAnchorTable.removeItem c.id, s.calls.erase c⟩ := by
      refine (h.endCall c).changeAt (fun a ha => ?_) (fun id hid => ?_) hothers
      · exact absurd (hnone.symm.trans ha).symm (some_ne_none a)
      · rw [valueFor_removeItem, if_neg hid]
    exact htable.newCall ⟨hok.anchor, hok.caller, fun hphase => (nomatch hphase), fun _ => hnone⟩ hothers
  | retire hc hphase => exact h.endCall _
  | tick now => exact h

/-! ## Ticks -/

lemma flatMap_range_getElem? {α β : Type*} (l : List α) (f : Option α → List β) :
    (List.range l.length).flatMap (fun i => f l[i]?) = l.flatMap fun x => f (some x) := by
  induction l with
  | nil => rfl
  | cons x l ih =>
    rw [length_cons, range_succ_eq_map, flatMap_cons, flatMap_map, flatMap_cons, ← ih]
    rfl

lemma flatMap_checkAnchor (now : ℤ) {as : List WdtAnchor} (h : ∀ a ∈ as, AnchorOk a.id a) :
    as.flatMap (fun a => checkAnchor now (some a))
      = (as.filter fun a => a.mThreshold < now - a.mAnchorTime).map (.onTimeout · now) := by
  induction as with
  | nil => rfl
  | cons a as ih =>
    obtain ⟨ha, has⟩ := forall_mem_cons.mp h
    obtain ⟨n, hn⟩ := isSome_iff_exists.mp ha.notify
    have htime : a.mAnchorTime ≠ 0 := Int.ne_of_gt ha.time_pos
    rw [flatMap_cons, ih has, filter_cons]
    simp only [checkAnchor, hn, WdtAnchor.isTimeout, htime, ne_eq, not_false_eq_true, true_and, decide_eq_true_eq]
    split_ifs
    · rfl
    · rfl

/-- **A tick** calls `onTimeout` for the anchors in the table that have exceeded their threshold, in the order of their
addresses, and for no other. -/
lemma Inv.tickCallbacks_eq (h : s.Inv) (now : ℤ) :
    s.tickCallbacks now
      = ((s.mAnchorTable.entries.map Prod.snd).filter fun a => a.mThreshold < now - a.mAnchorTime).map
        (.onTimeout · now) := by
  have hok : ∀ a ∈ s.mAnchorTable.entries.map Prod.snd, AnchorOk a.id a := by
    intro a ha
    obtain ⟨⟨id, a⟩, hmem, rfl⟩ := mem_map.mp ha
    have hanchor := h.table id a (valueFor_eq_some.mpr hmem)
    exact ⟨rfl, hanchor.time_pos, hanchor.notify⟩
  rw [← flatMap_checkAnchor now hok, flatMap_map]
  exact flatMap_range_getElem? s.mAnchorTable.entries fun e => checkAnchor now (e.map Prod.snd)

/-! ## The calls follow the protocol -/

/-- The anchor at that address is in the table, or held by a call. -/
def Known (s : WatchDog) (id : ℕ) (a : WdtAnchor) : Prop :=
  s.mAnchorTable.valueFor id = some a ∨ ∃ c ∈ s.calls, c.id = id ∧ c.anchor = a

lemma known_iff (hc : c ∈ s.calls) (id : ℕ) (a : WdtAnchor) :
    s.Known id a ↔ s.mAnchorTable.valueFor id = some a ∨ (c.id = id ∧ c.anchor = a)
      ∨ ∃ c' ∈ s.calls.erase c, c'.id = id ∧ c'.anchor = a := by
  simp [Known, (perm_cons_erase hc).mem_iff]

lemma Inv.known_insert (h : s.Inv) (hc : c ∈ s.calls) (hphase : c.phase = .setting) (id : ℕ) (a : WdtAnchor) :
    Known ⟨s.mAnchorTable.add c.id c.anchor, s.calls.erase c⟩ id a ↔ s.Known id a := by
  have hnone := (h.calls c hc).notFound (by simp [hphase])
  rw [known_iff hc, Known, valueFor_add]
  split_ifs with hid
  · simp [hid, hnone]
  · simp [Ne.symm hid]

lemma Inv.known_remove (h : s.Inv) (hc : c ∈ s.calls) (hphase : c.phase = .found) (id : ℕ) (a : WdtAnchor) :
    Known ⟨s.mAnchorTable.removeItem c.id, { c with phase := .removed } :: s.calls.erase c⟩ id a ↔ s.Known id a := by
  have hfound := (h.calls c hc).found hphase
  rw [known_iff hc, Known, valueFor_removeItem]
  simp only [mem_cons, exists_eq_or_imp]
  split_ifs with hid
  · simp [hid, hfound]
  · rfl

lemma known_lookup (ha : s.mAnchorTable.valueFor id = some a) (tid id' : ℕ) (a' : WdtAnchor) :
    Known { s with calls := ⟨.found, tid, id, a⟩ :: s.calls } id' a' ↔ s.Known id' a' := by
  simp only [Known, mem_cons, exists_eq_or_imp]
  constructor
  · rintro (htable | ⟨rfl, rfl⟩ | hcall)
    · exact .inl htable
    · exact .inl ha
    · exact .inr hcall
  · rintro (htable | hcall)
    · exact .inl htable
    · exact .inr (.inr hcall)

lemma Inv.known_retire (h : s.Inv) (hc : c ∈ s.calls) (hphase : c.phase = .removed) (id : ℕ)
    (a : WdtAnchor) : Known { s with calls := s.calls.erase c } id a ↔ id ≠ c.id ∧ s.Known id a := by
  have hnone := (h.calls c hc).notFound (by simp [hphase])
  rw [known_iff hc, Known]
  constructor
  · rintro (htable | ⟨c', hc', rfl, rfl⟩)
    · refine ⟨?_, .inl htable⟩
      rintro rfl
      exact absurd (hnone.symm.trans htable).symm (some_ne_none a)
    · exact ⟨((h.mem_erase_iff hc).mp hc').2, .inr (.inr ⟨c', hc', rfl, rfl⟩)⟩
  · rintro ⟨hid, htable | ⟨rfl, -⟩ | hcall⟩
    · exact .inl htable
    · exact absurd rfl hid
    · exact .inr hcall

/-- What the recipient takes to be live is what is known, under the thread that made it. -/
def Follows (s : WatchDog) (live : KeyedVector (ℕ × WdtAnchor)) : Prop :=
  ∀ id tid a, live.valueFor id = some (tid, a) ↔ a.mTid = tid ∧ s.Known id a

lemma Follows.congr (h : s.Follows live) (hknown : ∀ id a, s'.Known id a ↔ s.Known id a) : s'.Follows live := by
  intro id tid a
  rw [h id tid a, hknown id a]

lemma Inv.not_known (h : s.Inv) (hfresh : s.Fresh id) (a : WdtAnchor) : ¬ s.Known id a := by
  rintro (htable | ⟨c, hc, hid, -⟩)
  · exact absurd (hfresh.2.1.symm.trans htable).symm (some_ne_none a)
  · exact hfresh.2.2 c hc ((h.calls c hc).anchor.id_eq.trans hid)

lemma Follows.eq_none (h : s.Follows live) (hnew : ∀ a, ¬ s.Known id a) : live.valueFor id = none := by
  by_contra hsome
  obtain ⟨⟨tid, a⟩, hlive⟩ := ne_none_iff_exists'.mp hsome
  exact hnew a ((h id tid a).mp hlive).2

lemma Follows.announce (h : s.Follows live) {tid : ℕ} (hnew : ∀ b, ¬ s.Known a.id b) (htid : a.mTid = tid) :
    Follows { s with calls := ⟨.setting, tid, a.id, a⟩ :: s.calls } (live.add a.id (tid, a)) := by
  intro id t b
  have hcons : Known { s with calls := ⟨.setting, tid, a.id, a⟩ :: s.calls } id b
      ↔ (a.id = id ∧ a = b) ∨ s.Known id b := by
    simp only [Known, mem_cons, exists_eq_or_imp]
    tauto
  rw [valueFor_add, hcons]
  split_ifs with hid
  · subst hid
    simp only [Option.some.injEq, Prod.mk.injEq, true_and, hnew b, or_false]
    constructor
    · rintro ⟨rfl, rfl⟩
      exact ⟨htid, rfl⟩
    · rintro ⟨rfl, rfl⟩
      exact ⟨htid.symm, rfl⟩
  · rw [h id t b]
    simp [Ne.symm hid]

/-- **One move**, matched by the calls it makes. -/
lemma Follows.move (h : s.Follows live) (hinv : s.Inv) {label : List Callback}
    (hmove : s.Move s' label) : ∃ live', run AnchorProtocol.step live label = some live' ∧ s'.Follows live' := by
  cases hmove with
  | stay => exact ⟨live, rfl, h⟩
  | announce hfresh hanchor htid =>
    have hnew := hinv.not_known hfresh
    exact ⟨_, run_cons_eq_some.mpr ⟨_, if_pos (h.eq_none hnew), rfl⟩, h.announce hnew htid⟩
  | insert hc hphase => exact ⟨live, rfl, h.congr (hinv.known_insert hc hphase)⟩
  | find hfree ha htid => exact ⟨live, rfl, h.congr (known_lookup ha _)⟩
  | remove hc hphase => exact ⟨live, rfl, h.congr (hinv.known_remove hc hphase)⟩
  | @retire c hc hphase =>
    have hown : live.valueFor c.id = some (c.caller, c.anchor) :=
      (h c.id c.caller c.anchor).mpr ⟨(hinv.calls c hc).caller.symm, .inr ⟨c, hc, rfl, rfl⟩⟩
    refine ⟨live.removeItem c.id, run_cons_eq_some.mpr ⟨_, if_pos hown, rfl⟩, ?_⟩
    intro id t b
    rw [valueFor_removeItem, hinv.known_retire hc hphase]
    split_ifs with hid
    · simp [hid]
    · rw [h id t b]
      simp [hid]
  | tick now =>
    refine ⟨live, ?_, h⟩
    rw [hinv.tickCallbacks_eq now]
    refine AnchorProtocol.run_timeouts fun a ha => ?_
    obtain ⟨⟨id, b⟩, hmem, rfl⟩ := mem_map.mp (mem_filter.mp ha).1
    have htable := valueFor_eq_some.mpr hmem
    rw [(hinv.table id b htable).id_eq, (h id b.mTid b).mpr ⟨rfl, .inl htable⟩]
    rfl

lemma simulation : Simulation step callbacks AnchorProtocol.step fun s live => s.Inv ∧ s.Follows live := by
  rintro s act s' live ⟨hinv, hfollows⟩ hs'
  obtain ⟨live', hrun, hfollows'⟩ := hfollows.move hinv (step_move hs')
  exact ⟨live', hrun, hinv.move (step_move hs'), hfollows'⟩

lemma follows_start : start.Follows .empty := by
  intro id tid a
  simp [Known, start]

/-- **The watchdog.**  Over any interleaving of calls that set and delete anchors with the ticks of the watchdog:

* `onTimeout` is called for an anchor only after its `onSetAnchor`, with no `onDelAnchor` in between;
* `onDelAnchor` is called for an anchor only by the thread that has set it, and once for each time it was set;
* a tick calls `onTimeout` for exactly the anchors in the table whose time exceeds their threshold, for each once. -/
theorem watchdog_protocol (acts : List WdtAct) {s : WatchDog} (hs : run step start acts = some s) :
    (∀ before a now after, trace step callbacks start acts = before ++ .onTimeout a now :: after →
        ∃ tid, AnchorProtocol.SetSince before tid a)
      ∧ (∀ before tid id a after, trace step callbacks start acts = before ++ .onDelAnchor tid id a :: after →
        AnchorProtocol.SetSince before tid a)
      ∧ ∀ now, s.callbacks (.tick now)
        = ((s.mAnchorTable.entries.map Prod.snd).filter fun a => a.mThreshold < now - a.mAnchorTime).map
          (.onTimeout · now) := by
  obtain ⟨live, hrun, hinv, -⟩ := simulation.run ⟨inv_start, follows_start⟩ hs
  -- the state of the protocol before each of the calls
  have hbefore : ∀ before e after, trace step callbacks start acts = before ++ e :: after →
      ∃ m m', run AnchorProtocol.step .empty before = some m ∧ AnchorProtocol.step m e = some m' := by
    intro before e after htrace
    rw [htrace] at hrun
    obtain ⟨m, hm, hrest⟩ := run_append.mp hrun
    obtain ⟨m', hm', -⟩ := run_cons_eq_some.mp hrest
    exact ⟨m, m', hm, hm'⟩
  refine ⟨fun before a now after htrace => ?_, fun before tid id a after htrace => ?_, hinv.tickCallbacks_eq⟩
  · obtain ⟨m, m', hm, hm'⟩ := hbefore before _ after htrace
    obtain ⟨hlive, -⟩ := ite_none_right_eq_some.mp hm'
    obtain ⟨⟨tid, b⟩, hvalue, rfl⟩ := map_eq_some_iff.mp hlive
    exact ⟨tid, (AnchorProtocol.live_since hm hvalue).2⟩
  · obtain ⟨m, m', hm, hm'⟩ := hbefore before _ after htrace
    obtain ⟨hlive, -⟩ := ite_none_right_eq_some.mp hm'
    exact (AnchorProtocol.live_since hm hlive).2

/-- An anchor of thread 1, and one of thread 2 that gets its address. -/
def firstAnchor : WdtAnchor := ⟨16, 100, 800, "first", 1, some 0⟩

def secondAnchor : WdtAnchor := ⟨16, 2000, 800, "second", 2, some 0⟩

/-- The first is set, times out and is deleted, with a tick before `onDelAnchor`; then the second is set. -/
def reusedAddress : List WdtAct :=
  [.setAnchor 1 16 (some 0) 100 800 "first", .insert ⟨.setting, 1, 16, firstAnchor⟩, .tick 1000, .lookup 2 16,
    .lookup 1 16, .tick 1500, .remove ⟨.found, 1, 16, firstAnchor⟩, .tick 1800, .retire ⟨.removed, 1, 16, firstAnchor⟩,
    .setAnchor 2 16 (some 0) 2000 800 "second"]

theorem watchdog_protocol_reusedAddress :
    ∃ s, run step start reusedAddress = some s
      ∧ trace step callbacks start reusedAddress
        = [.onSetAnchor 1 firstAnchor, .onTimeout firstAnchor 1000, .onTimeout firstAnchor 1500,
          .onDelAnchor 1 16 firstAnchor, .onSetAnchor 2 secondAnchor]
      ∧ AnchorProtocol.SetSince [.onSetAnchor 1 firstAnchor, .onTimeout firstAnchor 1000, .onTimeout firstAnchor 1500] 1
        firstAnchor :=
  ⟨_, rfl, rfl, (watchdog_protocol reusedAddress rfl).2.1 _ 1 16 firstAnchor [.onSetAnchor 2 secondAnchor] rfl⟩

end WatchDog

end Hal
