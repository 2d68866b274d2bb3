import DeviceHal.Core.Machine
import DeviceHal.Core.Ledger

/-!
# Record buffers of the camera

`RecImgBuf::alloc`, in the ION build, opens the ION device, allocates a buffer, shares it and wraps the descriptor of
the share in a camera memory.  The object it makes gives the share, the buffer and the device back when it is
destroyed.  `RecBufManager::init` allocates its buffers in a loop, and destroys them if one of them cannot be made.

**The defect.**  When a step of `alloc` fails, all it does is to return `NULL`: what the steps before have taken is
kept by nobody.

* `RecImgBuf.alloc`, `RecImgBuf.destroy` — with the transfers of descriptors and handles in a ledger, and
  `IonAnswers.taken`, what a call takes before it returns.
* `RecordState` — the buffers there are, over any sequence of allocations and destructions; `Inv`, each of them holds
  what it took, and no two hold the same.
* **`record_buffers_released_iff`** — a buffer that was made gives everything back exactly once; an allocation that
  fails does so **iff** it was the device that could not be opened.
* `RecBufManager.init_bufs` — the loop of the manager is such a sequence, and one that fails leaves no buffer.
-/

namespace Hal

open List Option Ledger

/-- What is taken from the system: descriptors, and handles of a device that was opened. -/
inductive IonResource where
  | fd (n : ℤ)
  | handle (dev : ℤ) (h : ℕ)
deriving DecidableEq

/-- The answers to the calls of one `alloc`; `none` and `false` for one that fails.  In meta mode the constructor asks
gralloc for a descriptor. -/
structure IonAnswers where
  ionOpen : ℤ
  ionAllocMm : Option ℕ
  ionShare : Option ℕ
  requestMemory : Bool
  grallocIonFd : ℤ

structure RecImgBuf where
  mbMetaMode : Bool
  mIonDevFd : ℤ
  mIonBufFd : ℤ
  mIonHandle : ℕ
  mi4BufIonFd : ℤ
deriving DecidableEq

def IonAnswers.taken (a : IonAnswers) : List IonResource :=
  if a.ionOpen < 0 then []
  else
    .fd a.ionOpen ::
      match a.ionAllocMm with
      | none => []
      | some handle =>
        .handle a.ionOpen handle ::
          match a.ionShare with
          | none => []
          | some bufFd => [.fd bufFd]

/-- The system gives nothing that is in use. -/
def IonAnswers.Fresh (a : IonAnswers) (log : List (Transfer IonResource)) : Prop :=
  a.taken.Nodup ∧ ∀ r ∈ a.taken, ¬ Holds log r

instance (a : IonAnswers) (log : List (Transfer IonResource)) : Decidable (a.Fresh log) :=
  inferInstanceAs (Decidable (a.taken.Nodup ∧ ∀ r ∈ a.taken, ¬ Holds log r))

namespace RecImgBuf

def alloc (metaMode : Bool) (a : IonAnswers) (log : List (Transfer IonResource)) :
    Option RecImgBuf × List (Transfer IonResource) :=
  if a.ionOpen < 0 then (none, log)
  else
    let log := log ++ [.acquire (.fd a.ionOpen)]
    match a.ionAllocMm with
    | none => (none, log)
    | some handle =>
      let log := log ++ [.acquire (.handle a.ionOpen handle)]
      match a.ionShare with
      | none => (none, log)
      | some bufFd =>
        let log := log ++ [.acquire (.fd bufFd)]
        if a.requestMemory then (some ⟨metaMode, a.ionOpen, bufFd, handle, a.grallocIonFd⟩, log) else (none, log)

def destroy (buf : RecImgBuf) (log : List (Transfer IonResource)) : List (Transfer IonResource) :=
  if 0 ≤ buf.mIonDevFd then
    let log := if 0 ≤ buf.mIonBufFd then log ++ [.release (.fd buf.mIonBufFd)] else log
    let log := log ++ [.release (.handle buf.mIonDevFd buf.mIonHandle)]
    log ++ [.release (.fd buf.mIonDevFd)]
  else log

def getIonFd (buf : RecImgBuf) : ℤ := if buf.mbMetaMode then buf.mi4BufIonFd else buf.mIonBufFd

def resources (buf : RecImgBuf) : List IonResource :=
  [.fd buf.mIonDevFd, .handle buf.mIonDevFd buf.mIonHandle, .fd buf.mIonBufFd]

def Opened (buf : RecImgBuf) : Prop := 0 ≤ buf.mIonDevFd ∧ 0 ≤ buf.mIonBufFd

lemma destroy_eq {buf : RecImgBuf} (h : buf.Opened) (log : List (Transfer IonResource)) :
    buf.destroy log = log ++ buf.resources.reverse.map .release := by
  simp [destroy, resources, h.1, h.2]

/-- **`alloc`** takes what its calls give, and makes a buffer that has all of it or none at all. -/
lemma alloc_cases (metaMode : Bool) (a : IonAnswers) (log : List (Transfer IonResource)) :
    alloc metaMode a log = (none, log ++ a.taken.map .acquire)
      ∨ ∃ buf, alloc metaMode a log = (some buf, log ++ a.taken.map .acquire) ∧ buf.resources = a.taken
        ∧ buf.Opened := by
  unfold alloc IonAnswers.taken
  by_cases hopen : a.ionOpen < 0
  · simp [hopen]
  · cases a.ionAllocMm with
    | none => simp [hopen]
    | some handle =>
      cases a.ionShare with
      | none => simp [hopen]
      | some bufFd =>
        cases a.requestMemory with
        | false => simp [hopen]
        | true =>
          right
          refine ⟨⟨metaMode, a.ionOpen, bufFd, handle, a.grallocIonFd⟩, ?_, ?_, ?_⟩
          · simp [hopen]
          · simp [hopen, resources]
          · exact ⟨Int.not_lt.mp hopen, Int.natCast_nonneg bufFd⟩

end RecImgBuf

lemma IonAnswers.taken_eq_nil_iff (a : IonAnswers) : a.taken = [] ↔ a.ionOpen < 0 := by
  simp [taken]

/-! ## Sequences of allocations and destructions -/

/-- The buffers that were made and not destroyed. -/
structure RecordState where
  bufs : List RecImgBuf
  log : List (Transfer IonResource)

inductive RecordAct where
  | alloc (metaMode : Bool) (answers : IonAnswers)
  | destroy (buf : RecImgBuf)

namespace RecordState

def step (s : RecordState) : RecordAct → Option RecordState
  | .alloc metaMode a =>
    if a.Fresh s.log then
      some ⟨(RecImgBuf.alloc metaMode a s.log).1.toList ++ s.bufs, (RecImgBuf.alloc metaMode a s.log).2⟩
    else none
  | .destroy buf => if buf ∈ s.bufs then some ⟨s.bufs.erase buf, buf.destroy s.log⟩ else none

def start : RecordState := ⟨[], []⟩

def owned (s : RecordState) : List IonResource := s.bufs.flatMap RecImgBuf.resources

/-- An allocation fails only if the device cannot be opened. -/
def Regular (s : RecordState) : RecordAct → Prop
  | .alloc metaMode a => (RecImgBuf.alloc metaMode a s.log).1 = none → a.ionOpen < 0
  | .destroy _ => True

instance (s : RecordState) : DecidablePred s.Regular
  | .alloc metaMode a =>
    inferInstanceAs (Decidable ((RecImgBuf.alloc metaMode a s.log).1 = none → a.ionOpen < 0))
  | .destroy _ => isTrue trivial

/-- Each buffer holds what it has to give back, and no other does. -/
structure Inv (s : RecordState) : Prop where
  sane : Sane s.log
  nodup : s.owned.Nodup
  held : ∀ r ∈ s.owned, Holds s.log r
  opened : ∀ buf ∈ s.bufs, buf.Opened

def NoLeak (s : RecordState) : Prop := ∀ r, Holds s.log r → r ∈ s.owned

variable {s s' : RecordState}

/-- What a step can do: an allocation that fails, one that succeeds, and a destruction. -/
lemma step_cases {act : RecordAct} (hs' : s.step act = some s') :
    (∃ a : IonAnswers, a.Fresh s.log ∧ s'.bufs = s.bufs ∧ s'.log = s.log ++ a.taken.map .acquire
        ∧ (s.Regular act ↔ a.taken = []))
      ∨ (∃ (a : IonAnswers) (buf : RecImgBuf), a.Fresh s.log ∧ buf.resources = a.taken ∧ buf.Opened
        ∧ s'.bufs = buf :: s.bufs ∧ s'.log = s.log ++ a.taken.map .acquire ∧ s.Regular act)
      ∨ (∃ buf ∈ s.bufs, s'.bufs = s.bufs.erase buf ∧ s'.log = buf.destroy s.log ∧ s.Regular act) := by
  cases act with
  | alloc metaMode a =>
    obtain ⟨hfresh, rfl⟩ := ite_some_none_eq_some.mp hs'
    obtain hnone | ⟨buf, hsome, hresources, hopened⟩ := RecImgBuf.alloc_cases metaMode a s.log
    · refine .inl ⟨a, hfresh, ?_, ?_, ?_⟩
      · simp [hnone]
      · simp [hnone]
      · simp [Regular, hnone, a.taken_eq_nil_iff]
    · refine .inr (.inl ⟨a, buf, hfresh, hresources, hopened, ?_, ?_, ?_⟩)
      · simp [hsome]
      · simp [hsome]
      · simp [Regular, hsome]
  | destroy buf =>
    obtain ⟨hbuf, rfl⟩ := ite_some_none_eq_some.mp hs'
    exact .inr (.inr ⟨buf, hbuf, rfl, rfl, trivial⟩)

lemma owned_perm {buf : RecImgBuf} (hbuf : buf ∈ s.bufs) :
    s.owned.Perm (buf.resources.reverse ++ (s.bufs.erase buf).flatMap RecImgBuf.resources) := by
  refine ((perm_cons_erase hbuf).flatMap_right RecImgBuf.resources).trans ?_
  exact (reverse_perm _).symm.append_right _

lemma Inv.owns (h : s.Inv) : Owns s.log s.owned := ⟨h.sane, h.nodup, h.held⟩

lemma Inv.of_owns (h : Owns s.log s.owned) (hopened : ∀ buf ∈ s.bufs, buf.Opened) : s.Inv :=
  ⟨h.sane, h.nodup, h.held, hopened⟩

/-- **One step**: the buffers go on to hold what is theirs; and a leak stays, so that there is none after the step just
if there was none before it, and it makes none. -/
lemma Inv.step_noLeak_iff (h : s.Inv) {act : RecordAct} (hs' : s.step act = some s') :
    s'.Inv ∧ (s'.NoLeak ↔ s.NoLeak ∧ s.Regular act) := by
  obtain ⟨a, hfresh, hbufs, hlog, hregular⟩ | ⟨a, buf, hfresh, hresources, hopened, hbufs, hlog, hregular⟩
    | ⟨buf, hbuf, hbufs, hlog, hregular⟩ := step_cases hs'
  · have howned : s'.owned = s.owned := by rw [owned, hbufs, owned]
    obtain ⟨howns, hcovers⟩ := h.owns.lose hfresh.1 hfresh.2
    rw [← hlog] at howns hcovers
    refine ⟨.of_owns (howned ▸ howns) (hbufs ▸ h.opened), ?_⟩
    show Covers s'.log s'.owned ↔ Covers s.log s.owned ∧ s.Regular act
    rw [howned, hregular]
    exact hcovers
  · have howned : s'.owned = a.taken ++ s.owned := by rw [owned, hbufs, flatMap_cons, hresources, owned]
    obtain ⟨howns, hcovers⟩ := h.owns.keep hfresh.1 hfresh.2
    rw [← hlog, ← howned] at howns hcovers
    refine ⟨.of_owns howns (hbufs ▸ forall_mem_cons.mpr ⟨hopened, h.opened⟩), ?_⟩
    rw [and_iff_left hregular]
    exact hcovers
  · have hperm := owned_perm hbuf
    rw [← hbufs] at hperm
    obtain ⟨howns, hcovers⟩ := h.owns.giveBack hperm
    rw [← RecImgBuf.destroy_eq (h.opened buf hbuf), ← hlog] at howns hcovers
    refine ⟨.of_owns howns fun b hb => h.opened b (mem_of_mem_erase (hbufs ▸ hb)), ?_⟩
    rw [and_iff_left hregular]
    exact hcovers

lemma inv_start : start.Inv := .of_owns owns_nil fun _ hbuf => absurd hbuf not_mem_nil

lemma noLeak_start : start.NoLeak := covers_nil

/-- After an allocation no more is held than before just if it has taken nothing. -/
lemma Inv.alloc_holds_iff (h : s.Inv) {metaMode : Bool} {a : IonAnswers} (hfresh : a.Fresh s.log) :
    (∀ r, Holds (RecImgBuf.alloc metaMode a s.log).2 r ↔ Holds s.log r) ↔ a.ionOpen < 0 := by
  have hlog : (RecImgBuf.alloc metaMode a s.log).2 = s.log ++ a.taken.map .acquire := by
    obtain hcase | ⟨buf, hcase, -, -⟩ := RecImgBuf.alloc_cases metaMode a s.log
    · rw [hcase]
    · rw [hcase]
  rw [← a.taken_eq_nil_iff, eq_nil_iff_forall_not_mem, hlog]
  simp only [(h.sane.acquireAll hfresh.1 hfresh.2).2, or_iff_right_iff_imp]
  exact forall_congr' fun r => ⟨fun himp hr => hfresh.2 r hr (himp hr), fun hempty hr => absurd hr hempty⟩

/-- **Record buffers give back what they take.**  In every state that allocations and destructions lead to, whatever the
calls answer:

* an allocation that fails has given back what it took, iff it was the device that could not be opened;
* nothing was ever given back that was not held; a buffer that is there holds its device, its handle and its share; and
  its destruction gives back each of them, once;
* nothing is held but by a buffer that is there, iff no allocation failed after it had opened the device. -/
theorem record_buffers_released_iff (acts : List RecordAct) {s : RecordState} (hs : run step start acts = some s) :
    (∀ metaMode a, a.Fresh s.log → (RecImgBuf.alloc metaMode a s.log).1 = none →
        ((∀ r, Holds (RecImgBuf.alloc metaMode a s.log).2 r ↔ Holds s.log r) ↔ a.ionOpen < 0))
      ∧ (Sane s.log ∧ ∀ buf ∈ s.bufs, (∀ r ∈ buf.resources, Holds s.log r)
        ∧ buf.destroy s.log = s.log ++ [.release (.fd buf.mIonBufFd),
          .release (.handle buf.mIonDevFd buf.mIonHandle), .release (.fd buf.mIonDevFd)])
      ∧ ((∀ r, Holds s.log r → ∃ buf ∈ s.bufs, r ∈ buf.resources) ↔ StepsMeet step Regular start acts) := by
  have hinv : s.Inv := run_invariant (fun _ _ _ h hs' => (h.step_noLeak_iff hs').1) inv_start hs
  refine ⟨fun metaMode a hfresh _ => hinv.alloc_holds_iff hfresh, ⟨hinv.sane, fun buf hbuf => ⟨?_, ?_⟩⟩, ?_⟩
  · intro r hr
    exact hinv.held r (mem_flatMap.mpr ⟨buf, hbuf, hr⟩)
  · exact RecImgBuf.destroy_eq (hinv.opened buf hbuf) s.log
  · have hend := run_iff_stepsMeet (I := Inv) (fun _ _ _ h hs' => (h.step_noLeak_iff hs').1)
      (fun _ _ _ h hs' => (h.step_noLeak_iff hs').2) inv_start hs
    rw [and_iff_right noLeak_start] at hend
    simpa only [NoLeak, owned, mem_flatMap] using hend

/-- Two buffers, the first of which is destroyed. -/
def twoBuffers : List RecordAct :=
  [.alloc false ⟨5, some 1, some 6, true, -1⟩, .alloc true ⟨7, some 1, some 8, true, 9⟩, .destroy ⟨false, 5, 6, 1, -1⟩]

theorem record_buffers_released_two :
    ∃ s, run step start twoBuffers = some s ∧ s.bufs = [⟨true, 7, 8, 1, 9⟩]
      ∧ ∀ r, Holds s.log r → ∃ buf ∈ s.bufs, r ∈ buf.resources :=
  ⟨_, rfl, by decide, (record_buffers_released_iff twoBuffers rfl).2.2.mpr (by decide)⟩

/-- **The defect**: the camera memory cannot be had, and the device, the handle and the share stay. -/
theorem failed_alloc_keeps :
    ∃ s, run step start [.alloc false ⟨5, some 1, some 6, false, -1⟩] = some s ∧ s.bufs = []
      ∧ Holds s.log (.fd 5) ∧ Holds s.log (.handle 5 1) ∧ Holds s.log (.fd 6)
      ∧ ¬ StepsMeet step Regular start [.alloc false ⟨5, some 1, some 6, false, -1⟩] :=
  ⟨_, rfl, by decide, by decide, by decide, by decide, by decide⟩

end RecordState

/-! ## The loop of the manager -/

namespace RecBufManager

open RecordState

/-- `uninit`: the entries are set to `NULL`, and nobody else has the buffers. -/
def uninit (mvImgBuf : List RecImgBuf) (s : RecordState) : Option RecordState :=
  run step s (mvImgBuf.map .destroy)

/-- The loop of `init`, with the answers for the rounds to come and the buffers so far; after `uninit` there are
none. -/
def initLoop (metaMode : Bool) :
    List IonAnswers → List RecImgBuf → RecordState → Option (Bool × List RecImgBuf × RecordState)
  | [], mvImgBuf, s => some (true, mvImgBuf, s)
  | a :: answers, mvImgBuf, s =>
    (s.step (.alloc metaMode a)).bind fun s' =>
      match (RecImgBuf.alloc metaMode a s.log).1 with
      | none => (uninit mvImgBuf s').map fun s'' => (false, [], s'')
      | some buf =>
        -- a descriptor 0 counts as a failure
        if buf.getIonFd = 0 then (uninit (mvImgBuf ++ [buf]) s').map fun s'' => (false, [], s'')
        else initLoop metaMode answers (mvImgBuf ++ [buf]) s'

/-- `RecBufManager::init`, with the answers for each of the `mu4BufCount` rounds. -/
def init (metaMode : Bool) (answers : List IonAnswers) (s : RecordState) :
    Option (Bool × List RecImgBuf × RecordState) :=
  initLoop metaMode answers [] s

lemma uninit_bufs {bufs base : List RecImgBuf} :
    ∀ {s s' : RecordState}, s.bufs.Perm (bufs ++ base) → uninit bufs s = some s' → s'.bufs.Perm base := by
  induction bufs with
  | nil =>
    intro s s' hperm hs'
    cases hs'
    exact hperm
  | cons buf bufs ih =>
    intro s s' hperm hs'
    obtain ⟨m, hm, hs'⟩ := run_cons_eq_some.mp hs'
    obtain ⟨-, rfl⟩ := ite_some_none_eq_some.mp hm
    refine ih ?_ hs'
    simpa using hperm.erase buf

variable {answers : List IonAnswers} {metaMode ok : Bool} {bufs' : List RecImgBuf} {s' : RecordState}

lemma initLoop_cons {a : IonAnswers} {bufs : List RecImgBuf}
    {s : RecordState} (h : initLoop metaMode (a :: answers) bufs s = some (ok, bufs', s')) :
    ∃ m, s.step (.alloc metaMode a) = some m
      ∧ ((m.bufs = s.bufs ∧ uninit bufs m = some s' ∧ ok = false ∧ bufs' = [])
        ∨ (∃ buf, m.bufs = buf :: s.bufs ∧ uninit (bufs ++ [buf]) m = some s' ∧ ok = false ∧ bufs' = [])
        ∨ ∃ buf, m.bufs = buf :: s.bufs ∧ initLoop metaMode answers (bufs ++ [buf]) m = some (ok, bufs', s')) := by
  obtain ⟨m, hm, h⟩ := bind_eq_some_iff.mp h
  refine ⟨m, hm, ?_⟩
  obtain ⟨-, hm⟩ := ite_none_right_eq_some.mp hm
  have hbufs : m.bufs = (RecImgBuf.alloc metaMode a s.log).1.toList ++ s.bufs := by rw [← Option.some.inj hm]
  cases halloc : (RecImgBuf.alloc metaMode a s.log).1 with
  | none =>
    simp only [halloc] at h
    obtain ⟨u, hu, heq⟩ := map_eq_some_iff.mp h
    cases heq
    exact .inl ⟨by simpa [halloc] using hbufs, hu, rfl, rfl⟩
  | some buf =>
    have hcons : m.bufs = buf :: s.bufs := by simpa [halloc] using hbufs
    simp only [halloc] at h
    split_ifs at h
    · obtain ⟨u, hu, heq⟩ := map_eq_some_iff.mp h
      cases heq
      exact .inr (.inl ⟨buf, hcons, hu, rfl, rfl⟩)
    · exact .inr (.inr ⟨buf, hcons, h⟩)

lemma run_initLoop :
    ∀ {bufs : List RecImgBuf} {s : RecordState}, initLoop metaMode answers bufs s = some (ok, bufs', s') →
      ∃ acts, run step s acts = some s' := by
  induction answers with
  | nil =>
    intro bufs s h
    cases h
    exact ⟨[], rfl⟩
  | cons a answers ih =>
    intro bufs s h
    obtain ⟨m, hm, ⟨-, hu, -, -⟩ | ⟨buf, -, hu, -, -⟩ | ⟨buf, -, hrest⟩⟩ := initLoop_cons h
    · exact ⟨_, run_cons_eq_some.mpr ⟨m, hm, hu⟩⟩
    · exact ⟨_, run_cons_eq_some.mpr ⟨m, hm, hu⟩⟩
    · obtain ⟨acts, hacts⟩ := ih hrest
      exact ⟨_, run_cons_eq_some.mpr ⟨m, hm, hacts⟩⟩

/-- The buffers there are after the loop are those of the manager and those there were before. -/
lemma initLoop_bufs {base : List RecImgBuf} :
    ∀ {bufs : List RecImgBuf} {s : RecordState}, initLoop metaMode answers bufs s = some (ok, bufs', s') →
      s.bufs.Perm (bufs ++ base) →
      s'.bufs.Perm (bufs' ++ base) ∧ bufs'.length = if ok then bufs.length + answers.length else 0 := by
  induction answers with
  | nil =>
    intro bufs s h hperm
    cases h
    exact ⟨hperm, rfl⟩
  | cons a answers ih =>
    intro bufs s h hperm
    have hmore : ∀ {buf : RecImgBuf}, (buf :: s.bufs).Perm (bufs ++ [buf] ++ base) := by
      intro buf
      have hmiddle : (bufs ++ buf :: base).Perm (buf :: (bufs ++ base)) := perm_middle
      rw [append_assoc]
      exact (hperm.cons buf).trans hmiddle.symm
    obtain ⟨m, -, ⟨hbufs, hu, rfl, rfl⟩ | ⟨buf, hbufs, hu, rfl, rfl⟩ | ⟨buf, hbufs, hrest⟩⟩ := initLoop_cons h
    · exact ⟨uninit_bufs (hbufs ▸ hperm) hu, rfl⟩
    · exact ⟨uninit_bufs (hbufs ▸ hmore) hu, rfl⟩
    · obtain ⟨hperm', hlength⟩ := ih hrest (hbufs ▸ hmore)
      refine ⟨hperm', ?_⟩
      rw [hlength, length_append, length_singleton, length_cons, Nat.add_assoc, Nat.add_comm 1]

/-- **The manager's loop.**  Where it leads to is reached by allocations and destructions.  It makes as many buffers as
there are rounds, next to those that were there, or, if it fails, leaves no buffer but those. -/
theorem init_bufs {mvImgBuf : List RecImgBuf} {s : RecordState}
    (h : init metaMode answers s = some (ok, mvImgBuf, s')) :
    (∃ acts, run step s acts = some s') ∧ s'.bufs.Perm (mvImgBuf ++ s.bufs)
      ∧ mvImgBuf.length = if ok then answers.length else 0 := by
  obtain ⟨hperm, hlength⟩ := initLoop_bufs h (List.Perm.refl s.bufs)
  rw [length_nil, Nat.zero_add] at hlength
  exact ⟨run_initLoop h, hperm, hlength⟩

/-- The second share gets the descriptor 0, and the first buffer goes too. -/
theorem init_bufs_descriptorZero :
    ∃ mvImgBuf s', init false [⟨5, some 1, some 6, true, -1⟩, ⟨7, some 1, some 0, true, -1⟩] start
        = some (false, mvImgBuf, s')
      ∧ s'.bufs.Perm (mvImgBuf ++ start.bufs) ∧ mvImgBuf.length = 0 := by
  obtain ⟨mvImgBuf, s', h⟩ : ∃ mvImgBuf s', init false [⟨5, some 1, some 6, true, -1⟩, ⟨7, some 1, some 0, true, -1⟩]
      start = some (false, mvImgBuf, s') := ⟨_, _, rfl⟩
  exact ⟨mvImgBuf, s', h, (init_bufs h).2⟩

end RecBufManager

end Hal
