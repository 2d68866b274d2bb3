import Mathlib.Data.List.Induction
import DeviceHal.Core.Machine
import DeviceHal.Core.KeyedVector

/-!
# The client of a pool consumer

`GuiExtClientConsumer` keeps a slot for every buffer it was given, under a number that is put together from pool, usage,
type and index, and remembers in it whether the caller has the buffer.  The flag is what `disconnect` goes by when it
gives buffers back to the service, and what `acquire` goes by when the service refuses and a cached buffer has to do.

**The defect.**  `acquire` sets the flag of a new slot and of one that stands in, but not of a cached slot that the
service hands out again: a buffer that is acquired, released and acquired again is not marked.

* `ClientState` — the client with the slots whose buffers the caller has (`held`), and what a call did last.
* **`slots_marked_iff`** — when the flags say what the caller has, and `disconnect` gives back exactly that.
-/

namespace Hal

open List Option SortedVector

structure PoolUse where
  poolId : ℕ
  usage : ℕ
  type : ℕ
deriving DecidableEq

structure BufferRef where
  use : PoolUse
  idx : ℕ
deriving DecidableEq

def BufferRef.key (r : BufferRef) : ℕ :=
  (r.use.poolId <<< 10 ||| r.use.usage <<< 6 ||| r.use.type <<< 3 ||| r.idx) % 4294967296

/-- `BufferSlot`.  `buffer` is the handle, or `NULL`; the index is a `uint32_t`. -/
structure ClientSlot where
  ref : BufferRef
  buffer : Option ℕ
  isAcquired : Bool
deriving DecidableEq

/-- What the service says to `acquire`: an error, or an index, for which `request` then gives an error or a buffer. -/
inductive ServiceAnswer where
  | error
  | index (buf : ℕ) (request : Option (Option ℕ))

/-- What the last call did that is asked about: it handed out a buffer in place of the one the service refused, while
the caller had these, or it disconnected, with these buffers due and these released to the service. -/
inductive ClientEvent where
  | quiet
  | standIn (key : ℕ) (held : List ℕ)
  | disconnected (due released : List BufferRef)
deriving DecidableEq

/-- `GuiExtClientConsumer`.  Ghosts: `held` has the numbers of the slots whose buffers were handed to the caller and not
released since, `last` what the last call did. -/
structure ClientState where
  mSlots : KeyedVector ClientSlot
  crashed : Bool
  held : List ℕ
  last : ClientEvent

/-- The calls, with whether the service can be reached and what it answers. -/
inductive ClientAct where
  | acquire (use : PoolUse) (reached : Bool) (answer : ServiceAnswer)
  | release (buffer : Option ℕ) (use : PoolUse) (reached : Bool)
  | disconnect (use : PoolUse) (reached : Bool)

/-- What `getSlotFromBufferLocked` comes to: it reads through a `NULL` buffer, finds nothing, or an index. -/
inductive SlotSearch where
  | crash
  | unknown
  | found (idx : ℕ)
deriving DecidableEq

/-- `getSlotFromBufferLocked`. -/
def getSlotFromBuffer (buffer : ℕ) : List (ℕ × ClientSlot) → SlotSearch
  | [] => .unknown
  | e :: entries =>
    match e.2.buffer with
    | none => .crash
    | some b => if b = buffer then .found e.2.ref.idx else getSlotFromBuffer buffer entries

/-- `slot->isAcquired = flag`. -/
def ClientSlot.mark (flag : Bool) (slot : ClientSlot) : ClientSlot := { slot with isAcquired := flag }

/-- `releaseLocked`: the slots and what is released to the service, or `none` for a crash.  The index is an `int` here,
and an error if it is negative. -/
def releaseLocked (slots : KeyedVector ClientSlot) (buffer : Option ℕ) (use : PoolUse) :
    Option (KeyedVector ClientSlot × List BufferRef) :=
  match buffer with
  | none => none
  | some b =>
    match getSlotFromBuffer b slots.entries with
    | .crash => none
    | .unknown => some (slots, [])
    | .found idx =>
      if idx < 2147483648 then some (slots.modify (BufferRef.key ⟨use, idx⟩) (.mark false), [⟨use, idx⟩])
      else some (slots, [])

/-- The loop of `disconnect`, for the slots before position `n`, from the last to the first. -/
def disconnectFrom (use : PoolUse) : ℕ → KeyedVector ClientSlot → Option (KeyedVector ClientSlot × List BufferRef)
  | 0, slots => some (slots, [])
  | n + 1, slots =>
    match slots.valueAt n with
    | none => disconnectFrom use n slots
    | some slot =>
      if slot.ref.use = use then
        (if slot.isAcquired then releaseLocked slots slot.buffer use else some (slots, [])).bind fun r =>
          (disconnectFrom use n (r.1.removeItem (BufferRef.key ⟨use, slot.ref.idx⟩))).map fun r' =>
            (r'.1, r.2 ++ r'.2)
      else disconnectFrom use n slots

namespace ClientState

/-- Usage and type are checked, and `assertStateLocked` succeeds. -/
def Accepted (use : PoolUse) (reached : Bool) : Prop := use.usage < 2 ∧ use.type ≤ 2 ∧ reached = true

instance (use : PoolUse) (reached : Bool) : Decidable (Accepted use reached) :=
  inferInstanceAs (Decidable (_ ∧ _ ∧ _))

def quiet (s : ClientState) : ClientState := { s with last := .quiet }

def crash (s : ClientState) : ClientState := { s with crashed := true, last := .quiet }

/-- The buffer of the slot goes to the caller; `NULL` is no buffer. -/
def hand (s : ClientState) (key : ℕ) (buffer : Option ℕ) : List ℕ := if buffer.isSome then key :: s.held else s.held

/-- The slot that stands in when the service refuses. -/
def standIn (s : ClientState) (use : PoolUse) : Option (ℕ × ClientSlot) :=
  s.mSlots.entries.find? fun e => e.2.ref.use = use ∧ e.2.isAcquired = false

def acquire (s : ClientState) (use : PoolUse) : ServiceAnswer → ClientState
  | .error =>
    match s.standIn use with
    | none => s.quiet
    | some (k, slot) =>
      { s with
        mSlots := s.mSlots.modify k (.mark true)
        held := s.hand k slot.buffer
        last := .standIn k s.held }
  | .index buf request =>
    let r : BufferRef := ⟨use, buf⟩
    match s.mSlots.valueFor r.key with
    | some slot => { s with held := s.hand r.key slot.buffer, last := .quiet }
    | none =>
      match request with
      | none => s.quiet
      | some buffer =>
        { s with
          mSlots := s.mSlots.add r.key ⟨r, buffer, true⟩
          held := s.hand r.key buffer
          last := .quiet }

/-- The slot under the number has the buffer. -/
def HasBuffer (s : ClientState) (key buffer : ℕ) : Prop := ∃ slot ∈ s.mSlots.valueFor key, slot.buffer = some buffer

instance (s : ClientState) (key buffer : ℕ) : Decidable (s.HasBuffer key buffer) :=
  inferInstanceAs (Decidable (∃ slot ∈ s.mSlots.valueFor key, _))

/-- `release` of a buffer.  If it gets to the service the caller has the buffer no more. -/
def release (s : ClientState) (buffer : ℕ) (use : PoolUse) : ClientState :=
  match releaseLocked s.mSlots (some buffer) use with
  | none => s.crash
  | some (_, []) => s.quiet
  | some (slots, _ :: _) =>
    { s with mSlots := slots, held := s.held.filter fun k => ¬ s.HasBuffer k buffer, last := .quiet }

/-- The buffers that the caller has for this use. -/
def due (s : ClientState) (use : PoolUse) : List BufferRef :=
  (s.mSlots.entries.filter fun e => e.2.ref.use = use ∧ e.1 ∈ s.held).map fun e => e.2.ref

/-- `disconnect`.  What is not cached any more the caller does not have. -/
def disconnect (s : ClientState) (use : PoolUse) : ClientState :=
  if s.mSlots.size = 0 then s.quiet
  else
    match disconnectFrom use s.mSlots.size s.mSlots with
    | none => s.crash
    | some (slots, released) =>
      { s with
        mSlots := slots
        held := s.held.filter fun k => (slots.valueFor k).isSome
        last := .disconnected (s.due use) released }

def apply (s : ClientState) : ClientAct → ClientState
  | .acquire use reached answer => if Accepted use reached then s.acquire use answer else s.quiet
  | .release buffer use reached =>
    match buffer with
    | none => s.quiet
    | some b => if Accepted use reached then s.release b use else s.quiet
  | .disconnect use reached => if Accepted use reached then s.disconnect use else s.quiet

/-- The client.  Nothing happens after a crash. -/
def step (s : ClientState) (act : ClientAct) : Option ClientState := if s.crashed then some s else some (s.apply act)

def start : ClientState := ⟨.empty, false, [], .quiet⟩

end ClientState

/-- A buffer that stands in is not held already; what is due is released, each buffer once, and nothing else. -/
def ClientEvent.Ok : ClientEvent → Prop
  | .quiet => True
  | .standIn key held => key ∉ held
  | .disconnected due released => released.Perm due ∧ released.Nodup

namespace ClientState

/-- What is asked of the client at any time. -/
structure Ok (s : ClientState) : Prop where
  marked_iff : ∀ k slot, s.mSlots.valueFor k = some slot → (slot.isAcquired = true ↔ k ∈ s.held)
  last_ok : s.last.Ok
  running : s.crashed = false

/-- A cached buffer that the service hands out is one that the caller has, and a new slot gets a buffer. -/
def AcquireRegular (s : ClientState) (use : PoolUse) : ServiceAnswer → Prop
  | .error => True
  | .index buf request =>
    match s.mSlots.valueFor (BufferRef.key ⟨use, buf⟩) with
    | some slot => slot.isAcquired = true
    | none => request ≠ some none

instance (s : ClientState) (use : PoolUse) : DecidablePred (s.AcquireRegular use)
  | .error => isTrue trivial
  | .index buf request =>
    match h : s.mSlots.valueFor (BufferRef.key ⟨use, buf⟩) with
    | some slot => decidable_of_iff (slot.isAcquired = true) (by simp [AcquireRegular, h])
    | none => decidable_of_iff (request ≠ some none) (by simp [AcquireRegular, h])

/-- Of the marked slots a release unmarks those with the buffer. -/
def ReleaseRegular (s : ClientState) (b : ℕ) (use : PoolUse) : Prop :=
  match getSlotFromBuffer b s.mSlots.entries with
  | .found idx => idx < 2147483648 →
      ∀ e ∈ s.mSlots.entries, e.2.isAcquired = true → (e.1 = BufferRef.key ⟨use, idx⟩ ↔ e.2.buffer = some b)
  | _ => True

instance (s : ClientState) (b : ℕ) (use : PoolUse) : Decidable (s.ReleaseRegular b use) :=
  match h : getSlotFromBuffer b s.mSlots.entries with
  | .found idx => decidable_of_iff (idx < 2147483648 →
      ∀ e ∈ s.mSlots.entries, e.2.isAcquired = true → (e.1 = BufferRef.key ⟨use, idx⟩ ↔ e.2.buffer = some b))
      (by simp only [ReleaseRegular, h])
  | .crash => isTrue (by simp only [ReleaseRegular, h])
  | .unknown => isTrue (by simp only [ReleaseRegular, h])

end ClientState

/-- The search for the buffer of a slot comes to the slot's own index, which is not negative. -/
def FindsSelf (entries : List (ℕ × ClientSlot)) (slot : ClientSlot) : Prop :=
  slot.ref.idx < 2147483648 ∧ ∃ b ∈ slot.buffer, getSlotFromBuffer b entries = .found slot.ref.idx

instance (entries : List (ℕ × ClientSlot)) (slot : ClientSlot) : Decidable (FindsSelf entries slot) :=
  inferInstanceAs (Decidable (_ ∧ ∃ b ∈ slot.buffer, _))

/-- The slot is marked, and for this use. -/
def MarkedFor (use : PoolUse) (e : ℕ × ClientSlot) : Prop := e.2.ref.use = use ∧ e.2.isAcquired = true

instance (use : PoolUse) : DecidablePred (MarkedFor use) := fun _ => inferInstanceAs (Decidable (_ ∧ _))

namespace ClientState

def Regular (s : ClientState) : ClientAct → Prop
  | .acquire use reached answer => Accepted use reached → s.AcquireRegular use answer
  | .release buffer use reached => Accepted use reached → ∀ b ∈ buffer, s.ReleaseRegular b use
  | .disconnect use reached =>
    Accepted use reached → ∀ e ∈ s.mSlots.entries, MarkedFor use e → FindsSelf s.mSlots.entries e.2

instance (s : ClientState) : DecidablePred s.Regular
  | .acquire use reached answer => inferInstanceAs (Decidable (Accepted use reached → s.AcquireRegular use answer))
  | .release buffer use reached =>
    inferInstanceAs (Decidable (Accepted use reached → ∀ b ∈ buffer, s.ReleaseRegular b use))
  | .disconnect use reached =>
    inferInstanceAs (Decidable (Accepted use reached →
      ∀ e ∈ s.mSlots.entries, MarkedFor use e → FindsSelf s.mSlots.entries e.2))

end ClientState

/-! ## What the slots are -/

/-- Every slot is under its own number, and has a buffer. -/
structure SlotsSound (entries : List (ℕ × ClientSlot)) : Prop where
  key_eq : ∀ e ∈ entries, e.1 = e.2.ref.key
  buffer_ne : ∀ e ∈ entries, e.2.buffer ≠ none

namespace SlotsSound

variable {entries entries' : List (ℕ × ClientSlot)}

lemma nil : SlotsSound [] := ⟨fun _ he => absurd he not_mem_nil, fun _ he => absurd he not_mem_nil⟩

lemma of_subset (h : SlotsSound entries) (hsub : ∀ e ∈ entries', e ∈ entries) : SlotsSound entries' :=
  ⟨fun e he => h.key_eq e (hsub e he), fun e he => h.buffer_ne e (hsub e he)⟩

lemma of_concat {e : ℕ × ClientSlot} (h : SlotsSound (entries ++ [e])) : SlotsSound entries ∧ e.1 = e.2.ref.key :=
  ⟨h.of_subset fun _ he' => mem_append_left [e] he', h.key_eq e mem_concat_self⟩

lemma mark (h : SlotsSound entries) (k : ℕ) (flag : Bool) :
    SlotsSound (entries.map (SortedVector.modifyEntry k (.mark flag))) := by
  constructor
  case key_eq =>
    intro e' he'
    obtain ⟨e, he, rfl⟩ := mem_map.mp he'
    simp only [SortedVector.modifyEntry, apply_ite ClientSlot.ref, ClientSlot.mark, ite_self]
    exact h.key_eq e he
  case buffer_ne =>
    intro e' he'
    obtain ⟨e, he, rfl⟩ := mem_map.mp he'
    simp only [SortedVector.modifyEntry, apply_ite ClientSlot.buffer, ClientSlot.mark, ite_self]
    exact h.buffer_ne e he

lemma add {slots : KeyedVector ClientSlot} (h : SlotsSound slots.entries) (slot : ClientSlot)
    (hbuf : slot.buffer ≠ none) : SlotsSound (slots.add slot.ref.key slot).entries := by
  constructor
  case key_eq =>
    intro e he
    rcases mem_add.mp he with rfl | ⟨hold, -⟩
    · rfl
    · exact h.key_eq e hold
  case buffer_ne =>
    intro e he
    rcases mem_add.mp he with rfl | ⟨hold, -⟩
    · exact hbuf
    · exact h.buffer_ne e hold

end SlotsSound

/-! ## Searches and releases -/

section Release

variable {slots slots' : KeyedVector ClientSlot} {entries before after : List (ℕ × ClientSlot)} {e : ℕ × ClientSlot}
  {use : PoolUse} {b : ℕ} {released : List BufferRef}

lemma getSlotFromBuffer_ne_crash (h : SlotsSound entries) (b : ℕ) : getSlotFromBuffer b entries ≠ .crash := by
  induction entries with
  | nil => exact SlotSearch.noConfusion
  | cons x entries ih =>
    obtain ⟨b', hb'⟩ := ne_none_iff_exists'.mp (h.buffer_ne x mem_cons_self)
    simp only [getSlotFromBuffer, hb']
    split_ifs
    · exact SlotSearch.noConfusion
    · exact ih (h.of_subset fun e he => mem_cons_of_mem x he)

lemma getSlotFromBuffer_append (hsome : getSlotFromBuffer b before ≠ .unknown) (after : List (ℕ × ClientSlot)) :
    getSlotFromBuffer b (before ++ after) = getSlotFromBuffer b before := by
  induction before with
  | nil => exact absurd rfl hsome
  | cons x before ih =>
    rw [cons_append]
    simp only [getSlotFromBuffer] at hsome ⊢
    cases hx : x.2.buffer with
    | none => rfl
    | some b' =>
      simp only [hx] at hsome ⊢
      split_ifs at hsome ⊢ with heq
      · rfl
      · exact ih hsome

lemma getSlotFromBuffer_ne_unknown (he : e ∈ entries) (hb : e.2.buffer = some b) :
    getSlotFromBuffer b entries ≠ .unknown := by
  induction entries with
  | nil => exact absurd he not_mem_nil
  | cons x entries ih =>
    simp only [getSlotFromBuffer]
    cases hx : x.2.buffer with
    | none => exact SlotSearch.noConfusion
    | some b' =>
      dsimp only
      split_ifs with heq
      · exact SlotSearch.noConfusion
      · refine ih ((mem_cons.mp he).resolve_left ?_)
        rintro rfl
        exact heq (Option.some.inj (hx.symm.trans hb))

lemma findsSelf_append (he : e ∈ before) (after : List (ℕ × ClientSlot)) :
    FindsSelf (before ++ after) e.2 ↔ FindsSelf before e.2 := by
  refine and_congr_right fun _ => exists_congr fun b => and_congr_right fun hb => ?_
  rw [getSlotFromBuffer_append (getSlotFromBuffer_ne_unknown he hb)]

lemma releaseLocked_cases {buffer : Option ℕ} (h : releaseLocked slots buffer use = some (slots', released)) :
    slots' = slots ∧ released = []
      ∨ ∃ b idx, buffer = some b ∧ getSlotFromBuffer b slots.entries = .found idx ∧ idx < 2147483648
        ∧ slots' = slots.modify (BufferRef.key ⟨use, idx⟩) (.mark false) ∧ released = [⟨use, idx⟩] := by
  unfold releaseLocked at h
  split at h
  · cases h
  split at h
  · cases h
  · cases h
    exact .inl ⟨rfl, rfl⟩
  · next b _ idx hsearch =>
    split_ifs at h with hidx
    · cases h
      exact .inr ⟨b, idx, rfl, hsearch, hidx, rfl, rfl⟩
    · cases h
      exact .inl ⟨rfl, rfl⟩

lemma releaseLocked_self (h : FindsSelf slots.entries e.2) :
    releaseLocked slots e.2.buffer e.2.ref.use
      = some (slots.modify e.2.ref.key (.mark false), [e.2.ref]) := by
  obtain ⟨hidx, b, hb, hsearch⟩ := h
  have hbuffer : e.2.buffer = some b := hb
  simp only [releaseLocked, hbuffer, hsearch, if_pos hidx]

/-! ## The loop of `disconnect` -/

lemma disconnectFrom_snoc (hkey : e.1 = e.2.ref.key) (hentries : slots.entries = before ++ e :: after) :
    disconnectFrom use (before.length + 1) slots =
      if e.2.ref.use = use then
        (if e.2.isAcquired then releaseLocked slots e.2.buffer use else some (slots, [])).bind fun r =>
          (disconnectFrom use before.length (r.1.removeItem e.1)).map fun r' => (r'.1, r.2 ++ r'.2)
      else disconnectFrom use before.length slots := by
  have hat : slots.valueAt before.length = some e.2 := by simp [SortedVector.valueAt, hentries]
  rw [disconnectFrom, hat]
  by_cases huse : e.2.ref.use = use
  · subst huse
    rw [hkey]
  · simp only [if_neg huse]

/-- **What the loop removes and gives back** if every slot that it releases finds itself.  The slots behind the position
stay as they are. -/
theorem disconnectFrom_eq (use : PoolUse) (before after : List (ℕ × ClientSlot)) (h : SlotsSound before)
    (hentries : slots.entries = before ++ after) (hself : ∀ e ∈ before, MarkedFor use e → FindsSelf before e.2) :
    ∃ slots', disconnectFrom use before.length slots =
        some (slots', ((before.filter (MarkedFor use)).map fun e => e.2.ref).reverse) ∧
      slots'.entries = before.filter (fun e => e.2.ref.use ≠ use) ++ after := by
  induction before using List.reverseRecOn generalizing slots after with
  | nil => exact ⟨slots, rfl, hentries⟩
  | append_singleton before e ih =>
    have hentries' : slots.entries = before ++ e :: after := by simpa using hentries
    obtain ⟨hbefore, hkey⟩ := h.of_concat
    have hself' : ∀ e' ∈ before, MarkedFor use e' → FindsSelf before e'.2 := fun e' he' hmarked =>
      (findsSelf_append he' [e]).mp (hself e' (mem_append_left [e] he') hmarked)
    rw [length_append, length_singleton, disconnectFrom_snoc (hkey) hentries']
    by_cases huse : e.2.ref.use = use
    · subst huse
      cases hflag : e.2.isAcquired with
      | false =>
        obtain ⟨slots₂, hrest, hleft⟩ := ih after hbefore (entries_removeItem hentries') hself'
        refine ⟨slots₂, ?_, by simp [hleft]⟩
        simp [hrest, MarkedFor, hflag]
      | true =>
        have hmem : e ∈ before ++ [e] := mem_concat_self
        have hfinds := (findsSelf_append hmem after).mpr (hself e hmem ⟨rfl, hflag⟩)
        rw [← hentries] at hfinds
        have hremoved := entries_removeItem_modify_self hentries' (ClientSlot.mark false)
        obtain ⟨slots₂, hrest, hleft⟩ := ih after hbefore hremoved hself'
        refine ⟨slots₂, ?_, by simp [hleft]⟩
        rw [if_pos rfl, releaseLocked_self hfinds, ← hkey]
        simp [hrest, MarkedFor, hflag]
    · obtain ⟨slots₂, hrest, hleft⟩ := ih (e :: after) hbefore hentries' hself'
      refine ⟨slots₂, ?_, by simp [hleft, huse]⟩
      simp [hrest, MarkedFor, huse]

lemma markedFor_of_mark {k : ℕ} (h : MarkedFor use (SortedVector.modifyEntry k (.mark false) e)) : MarkedFor use e := by
  unfold SortedVector.modifyEntry MarkedFor at h
  split_ifs at h
  · exact absurd h.2 Bool.false_ne_true
  · exact h

lemma countP_mark_le (k : ℕ) (use : PoolUse) (entries : List (ℕ × ClientSlot)) :
    (entries.map (SortedVector.modifyEntry k (.mark false))).countP (MarkedFor use)
      ≤ entries.countP (MarkedFor use) := by
  rw [countP_map]
  refine countP_mono_left fun e _ hmarked => ?_
  exact decide_eq_true (markedFor_of_mark (of_decide_eq_true hmarked))

lemma countP_mark_lt (he : e ∈ entries) (hmarked : MarkedFor use e) :
    (entries.map (SortedVector.modifyEntry e.1 (.mark false))).countP (MarkedFor use)
      < entries.countP (MarkedFor use) := by
  obtain ⟨before, after, rfl⟩ := append_of_mem he
  have hcleared : ¬ MarkedFor use (SortedVector.modifyEntry e.1 (.mark false) e) := by
    simp [SortedVector.modifyEntry, MarkedFor, ClientSlot.mark]
  have hbefore := countP_mark_le e.1 use before
  have hafter := countP_mark_le e.1 use after
  rw [map_append, map_cons, countP_append, countP_append,
    countP_cons_of_neg (by simpa using hcleared), countP_cons_of_pos (by simpa using hmarked)]
  omega

/-- A round of the loop gives one buffer back at most, and none if the slot is not marked.  The slots before it stay,
with no more of them marked. -/
lemma round_le {slots₁ : KeyedVector ClientSlot} {given : List BufferRef} (hbefore : SlotsSound before)
    (hentries : slots.entries = before ++ e :: after)
    (hround : (if e.2.isAcquired then releaseLocked slots e.2.buffer use else some (slots, []))
      = some (slots₁, given)) :
    ∃ before' after', (slots₁.removeItem e.1).entries = before' ++ after' ∧ SlotsSound before'
      ∧ before'.length = before.length ∧ before'.countP (MarkedFor use) ≤ before.countP (MarkedFor use)
      ∧ given.length ≤ if e.2.isAcquired then 1 else 0 := by
  have hstay := entries_removeItem hentries
  cases hflag : e.2.isAcquired with
  | false =>
    rw [hflag, if_neg Bool.false_ne_true] at hround
    cases hround
    exact ⟨before, after, hstay, hbefore, rfl, Nat.le_refl _, Nat.le_refl 0⟩
  | true =>
    rw [hflag, if_pos rfl] at hround
    rcases releaseLocked_cases hround with ⟨rfl, rfl⟩ | ⟨b, idx, -, -, -, rfl, rfl⟩
    · exact ⟨before, after, hstay, hbefore, rfl, Nat.le_refl _, Nat.zero_le 1⟩
    · have hremoved := entries_removeItem_modify hentries (BufferRef.key ⟨use, idx⟩) (.mark false)
      rw [map_append] at hremoved
      exact ⟨_, _, hremoved, hbefore.mark _ false, length_map _, countP_mark_le _ use before, Nat.le_refl 1⟩

lemma length_released_le {n : ℕ} (h : SlotsSound before) (hn : before.length = n)
    (hentries : slots.entries = before ++ after) (hfrom : disconnectFrom use n slots = some (slots', released)) :
    released.length ≤ before.countP (MarkedFor use) := by
  induction n generalizing slots before after released with
  | zero =>
    cases hfrom
    exact Nat.zero_le _
  | succ n ih =>
    obtain rfl | ⟨before, e, rfl⟩ := eq_nil_or_concat' before
    · exact absurd hn (Nat.succ_ne_zero n).symm
    have hn' : before.length = n := by simpa using hn
    have hentries' : slots.entries = before ++ e :: after := by simpa using hentries
    obtain ⟨hbefore, hkey⟩ := h.of_concat
    rw [← hn', disconnectFrom_snoc hkey hentries', hn'] at hfrom
    rw [countP_append]
    by_cases huse : e.2.ref.use = use
    · rw [if_pos huse] at hfrom
      obtain ⟨⟨slots₁, given⟩, hround, hrest⟩ := bind_eq_some_iff.mp hfrom
      obtain ⟨⟨slots₂, rest⟩, hloop, ⟨⟩⟩ := map_eq_some_iff.mp hrest
      obtain ⟨before', after', hremoved, hsound, hlength, hcount, hgiven⟩ := round_le hbefore hentries' hround
      have hle := ih hsound (hlength.trans hn') hremoved hloop
      have hone : [e].countP (MarkedFor use) = if e.2.isAcquired then 1 else 0 := by
        simp [countP_cons, MarkedFor, huse]
      show (given ++ rest).length ≤ _
      rw [length_append, hone]
      omega
    · rw [if_neg huse] at hfrom
      exact Nat.le_add_right_of_le (ih hbefore hn' hentries' hfrom)

/-- The round of a marked slot: if it is not found itself it is given back under the number of another one that is due
and has lost its mark when its turn comes, so that fewer buffers are given back than are due. -/
lemma findsSelf_of_round {slots₁ slots₂ : KeyedVector ClientSlot} {given rest : List BufferRef}
    (hbefore : SlotsSound before) (hkey : e.1 = e.2.ref.key) (hentries : slots.entries = before ++ e :: after)
    (huse : e.2.ref.use = use) (hround : releaseLocked slots e.2.buffer use = some (slots₁, given))
    (hloop : disconnectFrom use before.length (slots₁.removeItem e.1) = some (slots₂, rest))
    (hperm : (given ++ rest).Perm ((before.filter (MarkedFor use)).map (fun e => e.2.ref) ++ [e.2.ref])) :
    FindsSelf slots.entries e.2 ∧ given = [e.2.ref] ∧ (slots₁.removeItem e.1).entries = before ++ after := by
  have hlength := hperm.length_eq
  simp only [length_append, length_map, length_singleton, ← countP_eq_length_filter] at hlength
  rcases releaseLocked_cases hround with ⟨rfl, rfl⟩ | ⟨b, idx, hb, hsearch, hidx, rfl, rfl⟩
  · have hle := length_released_le hbefore rfl (entries_removeItem hentries) hloop
    rw [length_nil] at hlength
    omega
  · by_cases hown : idx = e.2.ref.idx
    · subst huse hown
      refine ⟨⟨hidx, b, hb, hsearch⟩, rfl, ?_⟩
      have hkey' : BufferRef.key ⟨e.2.ref.use, e.2.ref.idx⟩ = e.1 := hkey.symm
      rw [hkey']
      exact entries_removeItem_modify_self hentries _
    · -- the slot that is unmarked instead
      have hdue : (⟨use, idx⟩ : BufferRef) ∈ (before.filter (MarkedFor use)).map fun e => e.2.ref := by
        refine (mem_append.mp (hperm.subset mem_cons_self)).resolve_right fun hlast => hown ?_
        exact congrArg BufferRef.idx (mem_singleton.mp hlast)
      obtain ⟨v, hv, href⟩ := mem_map.mp hdue
      obtain ⟨hv, hmarked⟩ := mem_filter.mp hv
      have hvkey : BufferRef.key ⟨use, idx⟩ = v.1 := by rw [hbefore.key_eq v hv, href]
      have hremoved := entries_removeItem_modify hentries (BufferRef.key ⟨use, idx⟩) (.mark false)
      rw [map_append] at hremoved
      have hle := length_released_le (hbefore.mark _ false) (length_map _) hremoved hloop
      have hlt := countP_mark_lt hv (of_decide_eq_true hmarked)
      rw [← hvkey] at hlt
      rw [length_singleton] at hlength
      omega

/-- It is enough that the slots before the last find themselves among each other, and the last one if it is marked. -/
lemma findsSelf_concat (hbefore : ∀ e' ∈ before, MarkedFor use e' → FindsSelf before e'.2)
    (hlast : MarkedFor use e → FindsSelf (before ++ [e]) e.2) :
    ∀ e' ∈ before ++ [e], MarkedFor use e' → FindsSelf (before ++ [e]) e'.2 := by
  intro e' he' hmarked
  rcases mem_append.mp he' with hold | hnew
  · exact (findsSelf_append hold [e]).mpr (hbefore e' hold hmarked)
  · obtain rfl := mem_singleton.mp hnew
    exact hlast hmarked

/-- **The loop gives back what it should only if every slot that it releases finds itself.** -/
theorem findsSelf_of_released (h : SlotsSound before) (hentries : slots.entries = before ++ after)
    (hfrom : disconnectFrom use before.length slots = some (slots', released))
    (hperm : released.Perm ((before.filter (MarkedFor use)).map fun e => e.2.ref)) :
    ∀ e ∈ before, MarkedFor use e → FindsSelf before e.2 := by
  induction before using List.reverseRecOn generalizing slots after released with
  | nil => exact fun e he => absurd he not_mem_nil
  | append_singleton before e ih =>
    have hentries' : slots.entries = before ++ e :: after := by simpa using hentries
    obtain ⟨hbefore, hkey⟩ := h.of_concat
    rw [length_append, length_singleton, disconnectFrom_snoc hkey hentries'] at hfrom
    rw [filter_append, map_append] at hperm
    by_cases hmarked : MarkedFor use e
    · rw [filter_cons_of_pos (by simpa using hmarked), filter_nil, map_singleton] at hperm
      rw [if_pos hmarked.1, if_pos hmarked.2] at hfrom
      obtain ⟨⟨slots₁, given⟩, hround, hrest⟩ := bind_eq_some_iff.mp hfrom
      obtain ⟨⟨slots₂, rest⟩, hloop, ⟨⟩⟩ := map_eq_some_iff.mp hrest
      obtain ⟨hfinds, rfl, hremoved⟩ :=
        findsSelf_of_round hbefore hkey hentries' hmarked.1 hround hloop hperm
      refine findsSelf_concat (ih hbefore hremoved hloop ?_) fun _ => ?_
      · exact (perm_cons _).mp (hperm.trans (perm_append_singleton _ _))
      · rw [hentries] at hfinds
        exact (findsSelf_append mem_concat_self after).mp hfinds
    · rw [filter_cons_of_neg (by simpa using hmarked), filter_nil, map_nil, append_nil] at hperm
      refine findsSelf_concat ?_ fun hmarked' => absurd hmarked' hmarked
      by_cases huse : e.2.ref.use = use
      · have hflag : ¬ e.2.isAcquired = true := fun hflag => hmarked ⟨huse, hflag⟩
        rw [if_pos huse, if_neg hflag, bind_some] at hfrom
        obtain ⟨⟨slots₂, rest⟩, hloop, ⟨⟩⟩ := map_eq_some_iff.mp hfrom
        exact ih hbefore (entries_removeItem hentries') hloop hperm
      · rw [if_neg huse] at hfrom
        exact ih hbefore hentries' hfrom hperm

end Release

namespace ClientState

variable {s s' : ClientState} {use : PoolUse}

/-! ## The invariant -/

structure Inv (s : ClientState) : Prop extends Ok s where
  sound : SlotsSound s.mSlots.entries
  held_cached : ∀ k ∈ s.held, (s.mSlots.valueFor k).isSome = true

lemma hand_eq (s : ClientState) (k : ℕ) {buffer : Option ℕ} (hbuf : buffer ≠ none) : s.hand k buffer = k :: s.held :=
  if_pos (isSome_iff_ne_none.mpr hbuf)

namespace Inv

lemma start : start.Inv where
  marked_iff k slot hslot := by simp [ClientState.start] at hslot
  last_ok := trivial
  running := rfl
  sound := .nil
  held_cached _ hk := absurd hk not_mem_nil

lemma mem_marked_iff (hinv : s.Inv) {e : ℕ × ClientSlot} (he : e ∈ s.mSlots.entries) :
    e.2.isAcquired = true ↔ e.1 ∈ s.held :=
  hinv.marked_iff e.1 e.2 (valueFor_eq_some.mpr he)

variable {b k : ℕ} {slot : ClientSlot}

lemma buffer_ne (hinv : s.Inv) (hslot : s.mSlots.valueFor k = some slot) : slot.buffer ≠ none :=
  hinv.sound.buffer_ne (k, slot) (valueFor_eq_some.mp hslot)

lemma quiet (hinv : s.Inv) : s.quiet.Inv where
  marked_iff := hinv.marked_iff
  last_ok := trivial
  running := hinv.running
  sound := hinv.sound
  held_cached := hinv.held_cached

/-! ## `acquire` -/

lemma acquire_error (hinv : s.Inv) : (s.acquire use .error).Inv := by
  unfold ClientState.acquire
  cases hfind : s.standIn use with
  | none => exact hinv.quiet
  | some e =>
    have he : e ∈ s.mSlots.entries := mem_of_find?_eq_some hfind
    have hcached : s.mSlots.valueFor e.1 = some e.2 := valueFor_eq_some.mpr he
    have hflag : e.2.isAcquired = false := by
      have hmatch := find?_some hfind
      simp only [decide_eq_true_eq] at hmatch
      exact hmatch.2
    have hfree : e.1 ∉ s.held := fun hheld => by
      rw [← hinv.mem_marked_iff he, hflag] at hheld
      exact Bool.false_ne_true hheld
    dsimp only
    rw [hand_eq s e.1 (hinv.buffer_ne hcached)]
    refine ⟨⟨fun k slot hslot => ?_, hfree, hinv.running⟩, hinv.sound.mark e.1 true, fun k hk => ?_⟩
    · obtain ⟨old, hold, rfl⟩ := valueFor_modify_eq_some.mp hslot
      by_cases hk : k = e.1
      · simp [hk, ClientSlot.mark]
      · simp [hk, hinv.marked_iff k old hold]
    · rw [isSome_valueFor_modify]
      rcases mem_cons.mp hk with rfl | hk
      · rw [hcached]
        rfl
      · exact hinv.held_cached k hk

lemma acquire_cached (hinv : s.Inv) (hslot : s.mSlots.valueFor k = some slot)
    (hflag : slot.isAcquired = true) : Inv { s with held := s.hand k slot.buffer, last := .quiet } := by
  have hheld : k ∈ s.held := (hinv.marked_iff k slot hslot).mp hflag
  have hhand : ∀ k', k' ∈ s.hand k slot.buffer ↔ k' ∈ s.held := by
    intro k'
    rw [hand_eq s k (hinv.buffer_ne hslot), mem_cons, or_iff_right_of_imp (fun hk => hk ▸ hheld)]
  refine ⟨⟨fun k' slot' hslot' => ?_, trivial, hinv.running⟩, hinv.sound, fun k' hk' => ?_⟩
  · rw [hhand]
    exact hinv.marked_iff k' slot' hslot'
  · exact hinv.held_cached k' ((hhand k').mp hk')

lemma acquire_new (hinv : s.Inv) (slot : ClientSlot) (hflag : slot.isAcquired = true) (hbuf : slot.buffer ≠ none) :
    Inv { s with
      mSlots := s.mSlots.add slot.ref.key slot
      held := s.hand slot.ref.key slot.buffer
      last := .quiet } := by
  rw [hand_eq s slot.ref.key hbuf]
  refine ⟨⟨forall_add (by simp [hflag]) fun k' slot' hk hslot' => ?_, trivial, hinv.running⟩,
    hinv.sound.add slot hbuf, fun k hk => ?_⟩
  · simp [hk, hinv.marked_iff k' slot' hslot']
  · rw [valueFor_add]
    split_ifs with hkey
    · rfl
    · exact hinv.held_cached k ((mem_cons.mp hk).resolve_left hkey)

lemma acquire_index (hinv : s.Inv) {buf : ℕ} {request : Option (Option ℕ)}
    (hreg : s.AcquireRegular use (.index buf request)) : (s.acquire use (.index buf request)).Inv := by
  cases hslot : s.mSlots.valueFor (BufferRef.key ⟨use, buf⟩) with
  | some slot =>
    simp only [AcquireRegular, hslot] at hreg
    simp only [ClientState.acquire, hslot]
    exact hinv.acquire_cached hslot hreg
  | none =>
    simp only [AcquireRegular, hslot] at hreg
    simp only [ClientState.acquire, hslot]
    cases request with
    | none => exact hinv.quiet
    | some buffer =>
      exact hinv.acquire_new ⟨⟨use, buf⟩, buffer, true⟩ rfl fun hnone => hreg (congrArg some hnone)

/-- **The defect**, in general: a cached buffer that was released is handed out and not marked; and a new slot without
a buffer is marked, though nothing is handed out. -/
lemma not_ok_of_acquire (hinv : s.Inv) {buf : ℕ} {request : Option (Option ℕ)}
    (hirr : ¬ s.AcquireRegular use (.index buf request)) : ¬ (s.acquire use (.index buf request)).Ok := by
  intro hok
  cases hslot : s.mSlots.valueFor (BufferRef.key ⟨use, buf⟩) with
  | some slot =>
    simp only [AcquireRegular, hslot] at hirr
    simp only [ClientState.acquire, hslot] at hok
    refine hirr ((hok.marked_iff _ slot hslot).mpr ?_)
    rw [hand_eq s _ (hinv.buffer_ne hslot)]
    exact mem_cons_self
  | none =>
    simp only [AcquireRegular, hslot, not_not] at hirr
    subst hirr
    simp only [ClientState.acquire, hslot] at hok
    have hmarked := hok.marked_iff (BufferRef.key ⟨use, buf⟩) ⟨⟨use, buf⟩, none, true⟩
      (by rw [valueFor_add, if_pos rfl])
    have hcached := hinv.held_cached _ (hmarked.mp rfl)
    rw [hslot] at hcached
    exact Bool.false_ne_true hcached

/-! ## `release` -/

lemma hasBuffer_iff (hslot : s.mSlots.valueFor k = some slot) : s.HasBuffer k b ↔ slot.buffer = some b := by
  simp [HasBuffer, hslot]

lemma release_cases (hinv : s.Inv) (b : ℕ) (use : PoolUse) :
    s.release b use = s.quiet ∧ s.ReleaseRegular b use
      ∨ ∃ idx < 2147483648, getSlotFromBuffer b s.mSlots.entries = .found idx
        ∧ s.release b use = { s with
            mSlots := s.mSlots.modify (BufferRef.key ⟨use, idx⟩) (.mark false)
            held := s.held.filter fun k => ¬ s.HasBuffer k b
            last := .quiet } := by
  cases hsearch : getSlotFromBuffer b s.mSlots.entries with
  | crash => exact absurd hsearch (getSlotFromBuffer_ne_crash hinv.sound b)
  | unknown =>
    simp only [ClientState.release, releaseLocked, ReleaseRegular, hsearch]
    exact .inl ⟨trivial, trivial⟩
  | found idx =>
    by_cases hidx : idx < 2147483648
    · simp only [ClientState.release, releaseLocked, hsearch, if_pos hidx]
      exact .inr ⟨idx, hidx, rfl, rfl⟩
    · simp only [ClientState.release, releaseLocked, ReleaseRegular, hsearch, if_neg hidx]
      exact .inl ⟨trivial, fun hlt => absurd hlt hidx⟩

lemma release (hinv : s.Inv) (hreg : s.ReleaseRegular b use) : (s.release b use).Inv := by
  rcases hinv.release_cases b use with ⟨hquiet, -⟩ | ⟨idx, hidx, hsearch, heq⟩
  · rw [hquiet]
    exact hinv.quiet
  · simp only [ReleaseRegular, hsearch] at hreg
    rw [heq]
    refine ⟨⟨fun k slot hslot => ?_, trivial, hinv.running⟩, hinv.sound.mark _ false, fun k hk => ?_⟩
    · obtain ⟨old, hold, rfl⟩ := valueFor_modify_eq_some.mp hslot
      have hmarked := hinv.marked_iff k old hold
      have hexact := hreg hidx (k, old) (valueFor_eq_some.mp hold)
      rw [mem_filter, decide_eq_true_eq, hasBuffer_iff hold, ← hmarked]
      split_ifs with hk
      · refine iff_of_false Bool.false_ne_true ?_
        rintro ⟨hflag, hother⟩
        exact hother ((hexact hflag).mp hk)
      · exact ⟨fun hflag => ⟨hflag, fun hb => hk ((hexact hflag).mpr hb)⟩, And.left⟩
    · rw [isSome_valueFor_modify]
      exact hinv.held_cached k (mem_of_mem_filter hk)

/-- A marked slot that is unmarked though it has another buffer, or has the buffer and is not unmarked, is wrong
afterwards. -/
lemma not_ok_of_release (hinv : s.Inv) (hirr : ¬ s.ReleaseRegular b use) : ¬ (s.release b use).Ok := by
  intro hok
  rcases hinv.release_cases b use with ⟨-, hreg⟩ | ⟨idx, hidx, hsearch, heq⟩
  · exact hirr hreg
  · rw [heq] at hok
    refine hirr ?_
    simp only [ReleaseRegular, hsearch]
    intro _ e he hflag
    have hslot : s.mSlots.valueFor e.1 = some e.2 := valueFor_eq_some.mpr he
    have hafter := hok.marked_iff e.1 _ (valueFor_modify_eq_some.mpr ⟨e.2, hslot, rfl⟩)
    rw [mem_filter, decide_eq_true_eq, hasBuffer_iff hslot, ← hinv.mem_marked_iff he] at hafter
    split_ifs at hafter with hk
    · refine iff_of_true hk (by_contra fun hother => ?_)
      exact Bool.false_ne_true (hafter.mpr ⟨hflag, hother⟩)
    · exact iff_of_false hk (hafter.mp hflag).2

/-! ## `disconnect` -/

/-- The buffers that are due are those of the marked slots, and no two are the same. -/
lemma due_eq (hinv : s.Inv) (use : PoolUse) :
    s.due use = (s.mSlots.entries.filter (MarkedFor use)).map fun e => e.2.ref := by
  unfold due
  congr 1
  refine filter_congr fun e he => ?_
  simp [MarkedFor, hinv.mem_marked_iff he]

lemma due_nodup (hinv : s.Inv) (use : PoolUse) : (s.due use).Nodup := by
  refine List.Nodup.map_on (fun e he e' he' href => ?_) (List.Nodup.filter _ (List.Nodup.of_map _ s.mSlots.keys_nodup))
  have hmem := (mem_filter.mp he).1
  have hmem' := (mem_filter.mp he').1
  refine inj_on_of_nodup_map s.mSlots.keys_nodup hmem hmem' ?_
  rw [hinv.sound.key_eq e hmem, hinv.sound.key_eq e' hmem', href]

lemma disconnect (hinv : s.Inv)
    (hreg : ∀ e ∈ s.mSlots.entries, MarkedFor use e → FindsSelf s.mSlots.entries e.2) : (s.disconnect use).Inv := by
  unfold ClientState.disconnect
  split_ifs with hsize
  · exact hinv.quiet
  · obtain ⟨slots, hfrom, hleft⟩ :=
      disconnectFrom_eq use s.mSlots.entries [] hinv.sound (append_nil _).symm hreg
    rw [append_nil] at hleft
    have hsub : ∀ e ∈ slots.entries, e ∈ s.mSlots.entries := by
      intro e he
      rw [hleft] at he
      exact mem_of_mem_filter he
    rw [SortedVector.size, hfrom, ← hinv.due_eq]
    refine ⟨⟨fun k slot hslot => ?_, ⟨reverse_perm _, nodup_reverse.mpr (hinv.due_nodup use)⟩, hinv.running⟩,
      hinv.sound.of_subset hsub, fun k hk => ?_⟩
    · have hold := hinv.mem_marked_iff (hsub (k, slot) (valueFor_eq_some.mp hslot))
      simp [hslot, hold]
    · exact (mem_filter.mp hk).2

lemma not_ok_of_disconnect (hinv : s.Inv)
    (hirr : ¬ ∀ e ∈ s.mSlots.entries, MarkedFor use e → FindsSelf s.mSlots.entries e.2) :
    ¬ (s.disconnect use).Ok := by
  intro hok
  unfold ClientState.disconnect at hok
  split_ifs at hok with hsize
  · rw [eq_nil_of_length_eq_zero hsize] at hirr
    exact hirr fun e he => absurd he not_mem_nil
  · cases hfrom : disconnectFrom use s.mSlots.size s.mSlots with
    | none =>
      rw [hfrom] at hok
      exact Bool.false_ne_true hok.running.symm
    | some r =>
      obtain ⟨slots, released⟩ := r
      rw [hfrom] at hok
      have hperm : released.Perm (s.due use) := hok.last_ok.1
      rw [hinv.due_eq] at hperm
      exact hirr (findsSelf_of_released hinv.sound (append_nil _).symm hfrom hperm)

end Inv

/-! ## Histories -/

variable {act : ClientAct}

lemma step_eq (hinv : s.Inv) (hstep : s.step act = some s') : s' = s.apply act := by
  simpa [step, hinv.running] using hstep.symm

lemma step_inv (hinv : s.Inv) (hreg : s.Regular act) (hstep : s.step act = some s') : s'.Inv := by
  rw [step_eq hinv hstep]
  cases act with
  | acquire use reached answer =>
    simp only [apply]
    split_ifs with hacc
    · cases answer with
      | error => exact hinv.acquire_error
      | index buf request => exact hinv.acquire_index (hreg hacc)
    · exact hinv.quiet
  | release buffer use reached =>
    cases buffer with
    | none => exact hinv.quiet
    | some b =>
      simp only [apply]
      split_ifs with hacc
      · exact hinv.release (hreg hacc b rfl)
      · exact hinv.quiet
  | disconnect use reached =>
    simp only [apply]
    split_ifs with hacc
    · exact hinv.disconnect (hreg hacc)
    · exact hinv.quiet

lemma not_ok_of_irregular (hinv : s.Inv) (hirr : ¬ s.Regular act) (hstep : s.step act = some s') : ¬ s'.Ok := by
  rw [step_eq hinv hstep]
  cases act with
  | acquire use reached answer =>
    obtain ⟨hacc, hirr⟩ := Classical.not_imp.mp hirr
    simp only [apply, if_pos hacc]
    cases answer with
    | error => exact absurd trivial hirr
    | index buf request => exact hinv.not_ok_of_acquire hirr
  | release buffer use reached =>
    obtain ⟨hacc, hirr⟩ := Classical.not_imp.mp hirr
    cases buffer with
    | none => exact absurd (fun b hb => absurd hb (not_mem_none b)) hirr
    | some b =>
      simp only [apply, if_pos hacc]
      refine hinv.not_ok_of_release fun hreg => hirr fun b' hb' => ?_
      cases hb'
      exact hreg
  | disconnect use reached =>
    obtain ⟨hacc, hirr⟩ := Classical.not_imp.mp hirr
    simp only [apply, if_pos hacc]
    exact hinv.not_ok_of_disconnect hirr

lemma step_total (s : ClientState) (act : ClientAct) : ∃ s', s.step act = some s' := by
  unfold step
  split_ifs
  · exact ⟨s, rfl⟩
  · exact ⟨s.apply act, rfl⟩

/-- **The flags of the slots.**  In any history of calls, with any answers of the service, a slot is marked exactly if
the caller has its buffer, every `disconnect` gives back each of the buffers that it should once and no other, and no
buffer stands in that the caller has, iff every call of the history is regular. -/
theorem slots_marked_iff (acts : List ClientAct) : Along step Ok start acts ↔ StepsMeet step Regular start acts := by
  obtain ⟨s, hrun⟩ := run_eq_some_of_total step_total acts start
  exact along_iff_stepsMeet (fun _ _ _ hinv hreg hstep => step_inv hinv hreg hstep) (fun _ hinv => hinv.toOk)
    (fun _ _ _ hinv hirr hstep => not_ok_of_irregular hinv hirr hstep) .start hrun

/-- What the calls of the following histories are for. -/
def mirror : PoolUse := ⟨1, 0, 0⟩

/-- Two buffers; one is released and stands in later, the other is handed out twice; then all is given back. -/
example : StepsMeet step Regular start
    [.acquire mirror true (.index 0 (some (some 100))), .acquire mirror true (.index 1 (some (some 101))),
      .release (some 100) mirror true, .acquire mirror true .error, .acquire mirror true (.index 1 none),
      .disconnect mirror true] := by
  decide

/-- A buffer is acquired, released, and acquired again. -/
def acquiredAgain : List ClientAct :=
  [.acquire mirror true (.index 0 (some (some 100))), .release (some 100) mirror true,
    .acquire mirror true (.index 0 (some (some 100)))]

/-- **The defect**: the caller has a buffer whose slot is not marked, which then stands in for another one, and which
`disconnect` does not give back. -/
theorem released_buffer_not_marked_again :
    ∃ s, run step start acquiredAgain = some s ∧ ¬ s.Ok
      ∧ (∃ slot, s.mSlots.valueFor 1024 = some slot ∧ slot.isAcquired = false) ∧ s.held = [1024]
      ∧ (s.apply (.acquire mirror true .error)).last = .standIn 1024 [1024]
      ∧ (s.apply (.disconnect mirror true)).last = .disconnected [⟨mirror, 0⟩] [] := by
  refine ⟨_, rfl, fun hok => ?_, ⟨_, rfl, rfl⟩, rfl, by decide, by decide⟩
  exact absurd ((hok.marked_iff 1024 _ rfl).mpr mem_cons_self) (by decide)

end ClientState

end Hal
