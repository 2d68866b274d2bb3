import Mathlib.Data.List.Pairwise
import DeviceHal.Core.Machine
import DeviceHal.Ril.Types

/-!
# Interface ids of data calls

With `MTK_HARDWARE` the daemon hands an interface id to the vendor with every data call.  Id `i + 1`
is free while `dataCallCids[i]` is `-1`; `0` says that none of the four is.  The request only looks:
it is the response that writes the cid, into whatever entry is free *then*, and deactivation that
clears it, by cid.  One table serves both slots.

The setups in flight and the calls that are up are ghosts, each with the id it was given, and so is
the list of the table entries read or written.  The code takes no lock for the table; a request and a
response are one step each, so races within them are left out.

**The defect.**  Between request and response nothing reserves the id.  Two setups in flight get the
same one, a deactivation in between moves the response to another entry, a failure that comes with
a payload is recorded like a success, and a cid of one slot clears the entry of the other.
`dataCalls_ok`: where none of that happens, each id is its call's own.
-/

namespace Hal

open List Option Function

/-- What the response handler reads of `RIL_Data_Call_Response_v6`. -/
structure DataCallResponse where
  status : ℤ
  cid : ℤ

structure DataCallSetup where
  slot : Slot
  serial : ℤ
  interfaceId : ℕ
deriving DecidableEq

structure DataCall where
  slot : Slot
  interfaceId : ℕ
  cid : ℤ
deriving DecidableEq

/-- `dataCallCids`, and per slot whether there is an `mRadioResponse`. -/
structure DataCallState where
  dataCallCids : ℕ → ℤ
  radioResponse : Slot → Bool
  inFlight : List DataCallSetup
  active : List DataCall
  accessed : List ℕ

/-- Requests, responses, and clients that come and go.  A `NULL` response, or one of another length,
is `none`. -/
inductive DataCallAct where
  | setupDataCall (slot : Slot) (serial : ℤ)
  | setupDataCallResponse (setup : DataCallSetup) (e : RilErrno) (response : Option DataCallResponse)
  | deactivateDataCall (slot : Slot) (cid : ℤ)
  | setRadioResponse (slot : Slot) (connected : Bool)

/-- `while ((i<4) && (dataCallCids[i] != cid)) i++;` with `n` entries left: where it stops, and the
entries it reads. -/
def seekCid (cids : ℕ → ℤ) (cid : ℤ) : ℕ → ℕ → ℕ × List ℕ
  | 0, i => (i, [])
  | n + 1, i =>
    if cids i ≠ cid then
      let rest := seekCid cids cid n (i + 1)
      (rest.1, i :: rest.2)
    else (i, [i])

/-- The cid of the call that a response sets up, if it does. -/
def establishedCid (e : RilErrno) : Option DataCallResponse → Option ℤ
  | some response => if e = .success ∧ response.status = 0 then some response.cid else none
  | none => none

namespace DataCallState

def init : DataCallState := ⟨fun _ => -1, fun _ => false, [], [], []⟩

/-- The id that `setupDataCall` picks: "= i+1 if found, otherwise use 0". -/
def nextId (cids : ℕ → ℤ) : ℕ :=
  let i := (seekCid cids (-1) 4 0).1
  if i < 4 then i + 1 else 0

/-- `setupDataCall`.  From version 15 on no id is passed; a version below 4 is answered with an error
at once.  A request that cannot be marshalled is answered with a `NULL` response. -/
def setupDataCall (version : ℕ) (s : DataCallState) (slot : Slot) (serial : ℤ) : DataCallState :=
  if 4 ≤ version ∧ version ≤ 14 then
    { s with
      inFlight := ⟨slot, serial, nextId s.dataCallCids⟩ :: s.inFlight
      accessed := (seekCid s.dataCallCids (-1) 4 0).2 ++ s.accessed }
  else if version ≥ 15 then { s with inFlight := ⟨slot, serial, 0⟩ :: s.inFlight }
  else s

def setupDataCallResponse (s : DataCallState) (setup : DataCallSetup) (e : RilErrno)
    (response : Option DataCallResponse) : DataCallState :=
  let s :=
    if s.radioResponse setup.slot then
      match response with
      | none => s
      | some response =>
        let r := seekCid s.dataCallCids (-1) 4 0
        { s with
          dataCallCids := update s.dataCallCids r.1 response.cid
          accessed := r.1 :: r.2 ++ s.accessed }
    else s
  { s with
    inFlight := s.inFlight.erase setup
    active := (establishedCid e response).toList.map (fun cid => ⟨setup.slot, setup.interfaceId, cid⟩)
      ++ s.active }

def deactivateDataCall (s : DataCallState) (slot : Slot) (cid : ℤ) : DataCallState :=
  let r := seekCid s.dataCallCids cid 4 0
  { s with
    dataCallCids := if r.1 < 4 then update s.dataCallCids r.1 (-1) else s.dataCallCids
    active := s.active.filter fun call => ¬ (call.slot = slot ∧ call.cid = cid)
    accessed := (if r.1 < 4 then [r.1] else []) ++ r.2 ++ s.accessed }

/-- One action.  A response answers a setup in flight. -/
def step (version : ℕ) (s : DataCallState) : DataCallAct → Option DataCallState
  | .setupDataCall slot serial => some (s.setupDataCall version slot serial)
  | .setupDataCallResponse setup e response =>
    if setup ∈ s.inFlight then some (s.setupDataCallResponse setup e response) else none
  | .deactivateDataCall slot cid => some (s.deactivateDataCall slot cid)
  | .setRadioResponse slot connected =>
    some { s with radioResponse := update s.radioResponse slot connected }

/-! ## What the table is for -/

def occupant (cids : ℕ → ℤ) (i : ℕ) : Option ℤ := if cids i = -1 then none else some (cids i)

/-- The ids given to the data calls in flight or up, with their slots. -/
def given (s : DataCallState) : List (Slot × ℕ) :=
  s.inFlight.map (fun setup => (setup.slot, setup.interfaceId))
    ++ s.active.map fun call => (call.slot, call.interfaceId)

/-- `int dataCallCids[5]`. -/
def InBounds (s : DataCallState) : Prop := ∀ i ∈ s.accessed, i < 5

structure Ok (s : DataCallState) : Prop where
  /-- No two data calls on a slot have the same nonzero id. -/
  distinct : s.given.Pairwise fun x y => x.1 = y.1 → x.2 ≠ 0 → x.2 ≠ y.2
  /-- An occupied id is that of a call that is up: failures occupy none. -/
  occupied : ∀ i < 4, ∀ cid, occupant s.dataCallCids i = some cid →
    ∃ call ∈ s.active, call.interfaceId = i + 1 ∧ call.cid = cid
  /-- The cid of a call is in the entry of its id, and in no other. -/
  stored : ∀ call ∈ s.active, ∀ i < 4,
    occupant s.dataCallCids i = some call.cid ↔ call.interfaceId = i + 1
  in_bounds : s.InBounds

/-- No setup in flight on the slot was given the id that is next.  A success finds the id it was given
still the next one, and brings a cid of its own to a client that is connected; a failure brings a
payload only where it does no harm; and a cid in the table is deactivated by its own slot. -/
def Undisturbed (s : DataCallState) : DataCallAct → Prop
  | .setupDataCall slot _ => ∀ setup ∈ s.inFlight, setup.slot = slot →
      setup.interfaceId ≠ 0 → setup.interfaceId ≠ nextId s.dataCallCids
  | .setupDataCallResponse setup e response =>
    match establishedCid e response with
    | some cid => s.radioResponse setup.slot = true
        ∧ setup.interfaceId = nextId s.dataCallCids
        ∧ cid ≠ -1 ∧ ∀ call ∈ s.active, call.cid ≠ cid
    | none => ∀ r ∈ response, s.radioResponse setup.slot = true →
        r.cid = -1 ∨ nextId s.dataCallCids = 0
  | .deactivateDataCall slot cid => (∃ i < 4, occupant s.dataCallCids i = some cid) →
      ∃ call ∈ s.active, call.slot = slot ∧ call.cid = cid
  | .setRadioResponse _ _ => True

instance (s : DataCallState) (act : DataCallAct) : Decidable (s.Undisturbed act) := by
  cases act with
  | setupDataCall slot serial => dsimp only [Undisturbed]; infer_instance
  | setupDataCallResponse setup e response =>
    dsimp only [Undisturbed]
    split <;> infer_instance
  | deactivateDataCall slot cid => dsimp only [Undisturbed]; infer_instance
  | setRadioResponse slot connected => dsimp only [Undisturbed]; infer_instance

/-! ## The loop -/

/-- Where the loop over the first four entries stops: the first entry with the cid, or 4. -/
structure Stops (cids : ℕ → ℤ) (cid : ℤ) (i : ℕ) : Prop where
  le : i ≤ 4
  before : ∀ j < i, cids j ≠ cid
  found : i < 4 → cids i = cid

lemma seekCid_spec (cids : ℕ → ℤ) (cid : ℤ) (n i : ℕ) (hi : i + n = 4) (hbefore : ∀ j < i, cids j ≠ cid) :
    Stops cids cid (seekCid cids cid n i).1 ∧ ∀ j ∈ (seekCid cids cid n i).2, j < 4 := by
  induction n generalizing i with
  | zero =>
    exact ⟨⟨by simp only [seekCid]; omega, hbefore, by simp only [seekCid]; omega⟩, by simp [seekCid]⟩
  | succ n ih =>
    by_cases hcid : cids i = cid
    · rw [seekCid, if_neg (not_not.mpr hcid)]
      refine ⟨⟨by omega, hbefore, fun _ => hcid⟩, fun j hj => ?_⟩
      rcases mem_singleton.mp hj with rfl
      omega
    · have hnext : ∀ j < i + 1, cids j ≠ cid := by
        intro j hj
        rcases Nat.lt_succ_iff_lt_or_eq.mp hj with hlt | rfl
        · exact hbefore j hlt
        · exact hcid
      rcases ih (i + 1) (by omega) hnext with ⟨hstops, hread⟩
      rw [seekCid, if_pos hcid]
      refine ⟨hstops, fun j hj => ?_⟩
      rcases mem_cons.mp hj with rfl | hj
      · omega
      · exact hread j hj

lemma stops_seekCid (cids : ℕ → ℤ) (cid : ℤ) : Stops cids cid (seekCid cids cid 4 0).1 :=
  (seekCid_spec cids cid 4 0 rfl fun j hj => absurd hj (Nat.not_lt_zero j)).1

lemma lt_of_mem_seekCid (cids : ℕ → ℤ) (cid : ℤ) : ∀ j ∈ (seekCid cids cid 4 0).2, j < 4 :=
  (seekCid_spec cids cid 4 0 rfl fun j hj => absurd hj (Nat.not_lt_zero j)).2

variable {cid : ℤ} {cids : ℕ → ℤ} {s : DataCallState} {call : DataCall} {i version : ℕ}

lemma occupant_eq_some : occupant cids i = some cid ↔ cids i = cid ∧ cid ≠ -1 := by
  simp only [occupant]
  split_ifs with h
  · simp only [false_iff, not_and, not_not]
    exact fun hcid => hcid.symm.trans h
  · simp only [Option.some.injEq]
    exact ⟨fun hcid => ⟨hcid, hcid ▸ h⟩, fun hcid => hcid.1⟩

lemma occupant_update (cids : ℕ → ℤ) (i : ℕ) (cid : ℤ) (j : ℕ) :
    occupant (update cids i cid) j
      = if j = i then (if cid = -1 then none else some cid) else occupant cids j := by
  by_cases hj : j = i
  · subst hj
    simp [occupant]
  · simp [occupant, hj]

lemma occupant_update_cid (cids : ℕ → ℤ) (i : ℕ) (hcid : cid ≠ -1) (j : ℕ) :
    occupant (update cids i cid) j = if j = i then some cid else occupant cids j := by
  rw [occupant_update, if_neg hcid]

lemma occupant_update_free (cids : ℕ → ℤ) (i j : ℕ) :
    occupant (update cids i (-1)) j = if j = i then none else occupant cids j := by
  rw [occupant_update, if_pos rfl]

lemma occupant_of_nextId (h : nextId cids = i + 1) :
    i < 4 ∧ occupant cids i = none ∧ (seekCid cids (-1) 4 0).1 = i := by
  simp only [nextId] at h
  split_ifs at h with hlt
  have hi : (seekCid cids (-1) 4 0).1 = i := Nat.succ.inj h
  have hfree := (stops_seekCid cids (-1)).found hlt
  rw [hi] at hlt hfree
  exact ⟨hlt, by simp [occupant, hfree], hi⟩

lemma nextId_of_full (h : nextId cids = 0) : (seekCid cids (-1) 4 0).1 = 4 := by
  simp only [nextId] at h
  split_ifs at h with hlt
  exact Nat.le_antisymm (stops_seekCid cids (-1)).le (Nat.not_lt.mp hlt)

/-! ## The invariant -/

/-- What `Ok` says of the calls, and that no id is that of two calls, not even on two slots. -/
structure Inv (s : DataCallState) : Prop where
  distinct : s.given.Pairwise fun x y => x.1 = y.1 → x.2 ≠ 0 → x.2 ≠ y.2
  active_distinct : s.active.Pairwise fun x y => x.interfaceId = y.interfaceId → x.interfaceId = 0
  occupied : ∀ i < 4, ∀ cid, occupant s.dataCallCids i = some cid →
    ∃ call ∈ s.active, call.interfaceId = i + 1 ∧ call.cid = cid
  stored : ∀ call ∈ s.active, ∀ i < 4,
    occupant s.dataCallCids i = some call.cid ↔ call.interfaceId = i + 1

lemma Inv.ok (h : s.Inv) (hbounds : s.InBounds) : s.Ok :=
  ⟨h.distinct, h.occupied, h.stored, hbounds⟩

lemma init_inv : init.Inv where
  distinct := by simp [init, given]
  active_distinct := by simp [init]
  occupied := by simp [init, occupant]
  stored := by simp [init]

lemma Inv.call_eq (h : s.Inv) {call' : DataCall} (hmem : call ∈ s.active)
    (hmem' : call' ∈ s.active) (hid : call.interfaceId = call'.interfaceId)
    (hne : call.interfaceId ≠ 0) : call = call' := by
  have hsymm : Std.Symm fun x y : DataCall => x.interfaceId = y.interfaceId → x.interfaceId = 0 :=
    ⟨fun x y hxy heq => heq.trans (hxy heq.symm)⟩
  by_contra hcall
  exact hne (h.active_distinct.forall hmem hmem' hcall hid)

lemma Inv.nextId_ne (h : s.Inv) (hcall : call ∈ s.active)
    (hne : call.interfaceId ≠ 0) : call.interfaceId ≠ nextId s.dataCallCids := by
  intro heq
  rcases Nat.exists_eq_succ_of_ne_zero hne with ⟨i, hi⟩
  rcases occupant_of_nextId (heq.symm.trans hi) with ⟨hlt, hfree, _⟩
  have hstored := (h.stored call hcall i hlt).mpr hi
  rw [hfree] at hstored
  cases hstored

lemma inv_setupDataCall (h : s.Inv) {slot : Slot} {serial : ℤ}
    (hok : s.Undisturbed (.setupDataCall slot serial)) : (s.setupDataCall version slot serial).Inv := by
  simp only [setupDataCall]
  split_ifs with hrange hnew
  · refine ⟨pairwise_cons.mpr ⟨fun y hy hslot hne heq => ?_, h.distinct⟩, h.active_distinct,
      h.occupied, h.stored⟩
    rcases mem_append.mp hy with hy | hy
    · rcases mem_map.mp hy with ⟨setup, hsetup, rfl⟩
      exact hok setup hsetup hslot.symm (fun hz => hne (heq.trans hz)) heq.symm
    · rcases mem_map.mp hy with ⟨call, hcall, rfl⟩
      exact h.nextId_ne hcall (fun hz => hne (heq.trans hz)) heq.symm
  · refine ⟨pairwise_cons.mpr ⟨fun y _ _ hne => absurd rfl hne, h.distinct⟩, h.active_distinct,
      h.occupied, h.stored⟩
  · exact h

lemma Inv.of_occupant (h : s.Inv) (accessed : List ℕ) (hcids : ∀ i < 4, occupant cids i = occupant s.dataCallCids i) :
    ({ s with dataCallCids := cids, accessed := accessed } : DataCallState).Inv := by
  refine ⟨h.distinct, h.active_distinct, fun i hi cid hsome => ?_, fun call hcall i hi => ?_⟩
  · exact h.occupied i hi cid ((hcids i hi).symm.trans hsome)
  · rw [hcids i hi]
    exact h.stored call hcall i hi

lemma Inv.erase (h : s.Inv) (setup : DataCallSetup) :
    ({ s with inFlight := s.inFlight.erase setup } : DataCallState).Inv := by
  refine ⟨h.distinct.sublist ?_, h.active_distinct, h.occupied, h.stored⟩
  exact List.Sublist.append (erase_sublist.map _) (List.Sublist.refl _)

variable {setup : DataCallSetup}

lemma Inv.distinct_established (h : s.Inv) (hmem : setup ∈ s.inFlight) :
    ((s.inFlight.erase setup).map (fun f => (f.slot, f.interfaceId))
      ++ (setup.slot, setup.interfaceId) :: s.active.map fun c => (c.slot, c.interfaceId)).Pairwise
        fun x y => x.1 = y.1 → x.2 ≠ 0 → x.2 ≠ y.2 := by
  have hsymm : Std.Symm fun x y : Slot × ℕ => x.1 = y.1 → x.2 ≠ 0 → x.2 ≠ y.2 :=
    ⟨fun x y hxy hslot hne heq => hxy hslot.symm (heq ▸ hne) heq.symm⟩
  have hperm := (perm_cons_erase hmem).map fun f : DataCallSetup => (f.slot, f.interfaceId)
  refine (List.Perm.pairwise_iff (fun {x y} => hsymm.symm x y) ?_).mp h.distinct
  exact (hperm.append_right _).trans perm_middle.symm

lemma nextId_eq_succ_iff (cids : ℕ → ℤ) (hi : i < 4) : nextId cids = i + 1 ↔ i = (seekCid cids (-1) 4 0).1 := by
  unfold nextId
  by_cases hlt : (seekCid cids (-1) 4 0).1 < 4
  · rw [if_pos hlt]
    omega
  · rw [if_neg hlt]
    omega

lemma Inv.interfaceId_ne_seekCid (h : s.Inv)
    (hcall : call ∈ s.active) (hi : (seekCid s.dataCallCids (-1) 4 0).1 < 4) :
    call.interfaceId ≠ (seekCid s.dataCallCids (-1) 4 0).1 + 1 := by
  intro heq
  have hsome := occupant_eq_some.mp ((h.stored call hcall _ hi).mpr heq)
  exact hsome.2 (hsome.1.symm.trans ((stops_seekCid s.dataCallCids (-1)).found hi))

lemma Inv.occupant_ne_of_fresh (h : s.Inv) (hfresh : ∀ call ∈ s.active, call.cid ≠ cid) (hi : i < 4) :
    occupant s.dataCallCids i ≠ some cid := by
  intro hsome
  rcases h.occupied i hi cid hsome with ⟨call, hcall, _, heq⟩
  exact hfresh call hcall heq

lemma Inv.stored_established (h : s.Inv) (hcid : cid ≠ -1)
    (hfresh : ∀ call ∈ s.active, call.cid ≠ cid) (hcall : call ∈ s.active) (hi : i < 4) :
    occupant (update s.dataCallCids (seekCid s.dataCallCids (-1) 4 0).1 cid) i
      = some call.cid ↔ call.interfaceId = i + 1 := by
  rw [occupant_update_cid _ _ hcid]
  by_cases hir : i = (seekCid s.dataCallCids (-1) 4 0).1
  · rw [if_pos hir]
    subst hir
    refine iff_of_false (fun heq => ?_) (h.interfaceId_ne_seekCid hcall hi)
    exact hfresh call hcall (Option.some.inj heq).symm
  · rw [if_neg hir]
    exact h.stored call hcall i hi

/-- A success: the id given is that of the entry written, or there was none. -/
lemma inv_established (h : s.Inv) (hmem : setup ∈ s.inFlight) (hid : setup.interfaceId = nextId s.dataCallCids)
    (hcid : cid ≠ -1) (hfresh : ∀ call ∈ s.active, call.cid ≠ cid) :
    ({ s with
      dataCallCids := update s.dataCallCids (seekCid s.dataCallCids (-1) 4 0).1 cid
      inFlight := s.inFlight.erase setup
      active := ⟨setup.slot, setup.interfaceId, cid⟩ :: s.active
      accessed := (seekCid s.dataCallCids (-1) 4 0).1 :: (seekCid s.dataCallCids (-1) 4 0).2
        ++ s.accessed } : DataCallState).Inv := by
  have hiff : ∀ i < 4, setup.interfaceId = i + 1 ↔ i = (seekCid s.dataCallCids (-1) 4 0).1 :=
    fun i hi => hid ▸ nextId_eq_succ_iff s.dataCallCids hi
  refine ⟨h.distinct_established hmem, pairwise_cons.mpr ⟨fun call hcall heq => ?_,
    h.active_distinct⟩, fun i hi cid' hsome => ?_, fun call hcall i hi => ?_⟩
  · by_contra hne
    exact h.nextId_ne hcall (heq ▸ hne) (heq.symm.trans hid)
  · rw [occupant_update_cid _ _ hcid] at hsome
    split_ifs at hsome with hir
    · exact ⟨_, mem_cons_self, (hiff i hi).mpr hir, Option.some.inj hsome⟩
    · rcases h.occupied i hi cid' hsome with ⟨call, hcall, hrest⟩
      exact ⟨call, mem_cons_of_mem _ hcall, hrest⟩
  · rcases mem_cons.mp hcall with rfl | hcall
    · rw [occupant_update_cid _ _ hcid, hiff i hi]
      split_ifs with hir
      · simp [hir]
      · simp [hir, h.occupant_ne_of_fresh hfresh hi]
    · exact h.stored_established hcid hfresh hcall hi

/-- A failure: what it writes, if anything, is no cid in an entry that counts. -/
lemma inv_failed (h : s.Inv) (setup : DataCallSetup) {e : RilErrno}
    {response : Option DataCallResponse} (hcid : establishedCid e response = none)
    (hok : ∀ r ∈ response, s.radioResponse setup.slot = true →
      r.cid = -1 ∨ nextId s.dataCallCids = 0) : (s.setupDataCallResponse setup e response).Inv := by
  simp only [setupDataCallResponse, hcid, toList_none, map_nil, nil_append]
  by_cases hconn : s.radioResponse setup.slot = true
  · rw [if_pos hconn]
    cases response with
    | none => exact h.erase setup
    | some r =>
      refine Inv.erase (h.of_occupant _ fun i hi => ?_) setup
      rw [occupant_update]
      split_ifs with hwritten hr
      · have hfree := (stops_seekCid s.dataCallCids (-1)).found (hwritten ▸ hi)
        rw [hwritten, occupant, if_pos hfree]
      · rcases hok r rfl hconn with hr' | hfull
        · exact absurd hr' hr
        · have hfour := nextId_of_full hfull
          omega
      · rfl
  · rw [if_neg hconn]
    exact h.erase setup

lemma inv_setupDataCallResponse (h : s.Inv)
    (hmem : setup ∈ s.inFlight) {e : RilErrno} {response : Option DataCallResponse}
    (hok : s.Undisturbed (.setupDataCallResponse setup e response)) :
    (s.setupDataCallResponse setup e response).Inv := by
  simp only [Undisturbed] at hok
  cases hcid : establishedCid e response with
  | none =>
    rw [hcid] at hok
    exact inv_failed h setup hcid hok
  | some cid =>
    rw [hcid] at hok
    rcases hok with ⟨hconn, hid, hne, hfresh⟩
    cases response with
    | none => exact absurd hcid (by simp [establishedCid])
    | some response =>
      have hresponse : response.cid = cid := by
        simp only [establishedCid] at hcid
        split_ifs at hcid
        exact Option.some.inj hcid
      have hinv := inv_established h hmem hid hne hfresh
      simp only [setupDataCallResponse, hconn, hcid, if_true, toList_some, map_cons,
        map_nil, singleton_append, hresponse]
      exact hinv

lemma inv_filter (h : s.Inv) (slot : Slot) (hnone : ∀ i < 4, occupant s.dataCallCids i ≠ some cid) :
    ({ s with active := s.active.filter fun call => ¬ (call.slot = slot ∧ call.cid = cid) } :
      DataCallState).Inv := by
  have hsub : (s.active.filter fun call => ¬ (call.slot = slot ∧ call.cid = cid)).Sublist s.active :=
    filter_sublist
  refine ⟨h.distinct.sublist ?_, h.active_distinct.sublist hsub, fun i hi cid' hsome => ?_,
    fun call hcall => h.stored call (hsub.subset hcall)⟩
  · exact List.Sublist.append (List.Sublist.refl _) (hsub.map _)
  · rcases h.occupied i hi cid' hsome with ⟨call, hcall, hid, hcid⟩
    refine ⟨call, mem_filter.mpr ⟨hcall, ?_⟩, hid, hcid⟩
    have hne : call.cid ≠ cid := fun heq => hnone i hi (heq ▸ hcid ▸ hsome)
    simp [hne]

lemma inv_clear (h : s.Inv) (hcall : call ∈ s.active)
    (hi : i < 4) (hsome : occupant s.dataCallCids i = some call.cid) :
    ({ s with
      dataCallCids := update s.dataCallCids i (-1)
      active := s.active.filter fun other => ¬ (other.slot = call.slot ∧ other.cid = call.cid) } :
      DataCallState).Inv := by
  have hsub : (s.active.filter fun other => ¬ (other.slot = call.slot ∧ other.cid = call.cid)).Sublist
      s.active := filter_sublist
  have hid := (h.stored call hcall i hi).mp hsome
  refine ⟨h.distinct.sublist ?_, h.active_distinct.sublist hsub, fun j hj cid hj' => ?_,
    fun other hother j hj => ?_⟩
  · exact List.Sublist.append (List.Sublist.refl _) (hsub.map _)
  · rw [occupant_update_free] at hj'
    split_ifs at hj' with hji
    rcases h.occupied j hj cid hj' with ⟨other, hother, hoid, hocid⟩
    refine ⟨other, mem_filter.mpr ⟨hother, ?_⟩, hoid, hocid⟩
    have hne : other.cid ≠ call.cid := by
      intro heq
      have hjid := (h.stored call hcall j hj).mp (by rw [← heq, hocid]; exact hj')
      exact hji (by omega)
    simp [hne]
  · dsimp only
    rw [occupant_update_free]
    split_ifs with hji
    · refine iff_of_false (by simp) fun hoid => ?_
      have heq : call = other := h.call_eq hcall (hsub.subset hother) (by omega) (by omega)
      have hkept := (mem_filter.mp hother).2
      rw [heq] at hkept
      exact absurd hkept (by simp)
    · exact h.stored other (hsub.subset hother) j hj

lemma inv_deactivateDataCall (h : s.Inv) {slot : Slot}
    (hok : s.Undisturbed (.deactivateDataCall slot cid)) : (s.deactivateDataCall slot cid).Inv := by
  have hstops := stops_seekCid s.dataCallCids cid
  simp only [deactivateDataCall]
  generalize seekCid s.dataCallCids cid 4 0 = r at hstops
  suffices hinv : ({ s with
      dataCallCids := if r.1 < 4 then update s.dataCallCids r.1 (-1) else s.dataCallCids
      active := s.active.filter fun call => ¬ (call.slot = slot ∧ call.cid = cid) } :
      DataCallState).Inv from
    ⟨hinv.distinct, hinv.active_distinct, hinv.occupied, hinv.stored⟩
  by_cases hlt : r.1 < 4
  · have hfound := hstops.found hlt
    rw [if_pos hlt]
    by_cases hcid : cid = -1
    · -- clearing a free entry changes nothing
      have hself : update s.dataCallCids r.1 (-1) = s.dataCallCids := by
        rw [← hcid, ← hfound]
        exact update_eq_self _ _
      rw [hself]
      exact inv_filter h slot fun i _ hsome => (occupant_eq_some.mp hsome).2 hcid
    · have hsome : occupant s.dataCallCids r.1 = some cid := occupant_eq_some.mpr ⟨hfound, hcid⟩
      rcases hok ⟨r.1, hlt, hsome⟩ with ⟨call, hcall, rfl, rfl⟩
      exact inv_clear h hcall hlt hsome
  · rw [if_neg hlt]
    refine inv_filter h slot fun i hi hsome => ?_
    exact hstops.before i (Nat.lt_of_lt_of_le hi (Nat.not_lt.mp hlt)) (occupant_eq_some.mp hsome).1

/-- **One step.** -/
lemma step_inv (s : DataCallState) (act : DataCallAct) (s' : DataCallState) (h : s.Inv)
    (hok : s.Undisturbed act) (hs' : s.step version act = some s') : s'.Inv := by
  cases act with
  | setupDataCall slot serial =>
    cases hs'
    exact inv_setupDataCall h hok
  | setupDataCallResponse setup e response =>
    obtain ⟨hmem, rfl⟩ := ite_some_none_eq_some.mp hs'
    exact inv_setupDataCallResponse h hmem hok
  | deactivateDataCall slot cid =>
    cases hs'
    exact inv_deactivateDataCall h hok
  | setRadioResponse slot connected =>
    cases hs'
    exact ⟨h.distinct, h.active_distinct, h.occupied, h.stored⟩

/-- No condition is needed for the bounds: a full table is what the fifth entry is for. -/
lemma step_inBounds (s : DataCallState) (act : DataCallAct) (s' : DataCallState)
    (h : s.InBounds) (hs' : s.step version act = some s') : s'.InBounds := by
  have hseek : ∀ cid, (∀ i ∈ (seekCid s.dataCallCids cid 4 0).2, i < 5)
      ∧ (seekCid s.dataCallCids cid 4 0).1 < 5 := fun cid =>
    ⟨fun i hi => Nat.lt_trans (lt_of_mem_seekCid _ _ i hi) (by decide),
      Nat.lt_succ_of_le (stops_seekCid _ _).le⟩
  cases act with
  | setupDataCall slot serial =>
    cases hs'
    simp only [setupDataCall]
    split_ifs
    · exact forall_mem_append.mpr ⟨(hseek (-1)).1, h⟩
    · exact h
    · exact h
  | setupDataCallResponse setup e response =>
    obtain ⟨hmem, rfl⟩ := ite_some_none_eq_some.mp hs'
    simp only [setupDataCallResponse]
    split_ifs
    · cases response with
      | none => exact h
      | some response =>
        exact forall_mem_append.mpr ⟨forall_mem_cons.mpr (hseek (-1)).symm, h⟩
    · exact h
  | deactivateDataCall slot cid =>
    cases hs'
    refine forall_mem_append.mpr ⟨forall_mem_append.mpr ⟨fun i hi => ?_, (hseek cid).1⟩, h⟩
    split_ifs at hi
    · rcases mem_singleton.mp hi with rfl
      exact (hseek cid).2
    · cases hi
  | setRadioResponse slot connected =>
    cases hs'
    exact h

/-- **Interface ids are their calls' own**, in every state of a run in which nothing disturbs a setup
in flight. -/
theorem dataCalls_ok (version : ℕ) (acts : List DataCallAct)
    (hacts : StepsMeet (step version) Undisturbed init acts) : Along (step version) Ok init acts :=
  along_of_stepsMeet (I := fun s => s.Inv ∧ s.InBounds)
    (fun s act s' h hok hs' => ⟨step_inv s act s' h.1 hok hs', step_inBounds s act s' h.2 hs'⟩)
    (fun _ h => h.1.ok h.2) ⟨init_inv, by simp [init, InBounds]⟩ hacts

/-- A call on each slot; a setup of slot 1 fails while one of slot 2 is in flight. -/
def dataCallRun : List DataCallAct :=
  [.setRadioResponse .socket1 true, .setRadioResponse .socket2 true, .setupDataCall .socket1 1,
    .setupDataCallResponse ⟨.socket1, 1, 1⟩ .success (some ⟨0, 5⟩), .setupDataCall .socket2 2,
    .setupDataCall .socket1 3, .setupDataCallResponse ⟨.socket1, 3, 2⟩ (.vendor 2) none,
    .setupDataCallResponse ⟨.socket2, 2, 2⟩ .success (some ⟨0, 6⟩), .deactivateDataCall .socket1 5]

theorem dataCalls_ok_dataCallRun :
    ((run (step 11) init dataCallRun).map fun s => (s.active, s.dataCallCids 0, s.dataCallCids 1))
        = some ([⟨.socket2, 2, 6⟩], -1, 6)
      ∧ Along (step 11) Ok init dataCallRun := by
  refine ⟨by decide, dataCalls_ok 11 dataCallRun ?_⟩
  refine stepsMeet_cons rfl trivial (stepsMeet_cons rfl trivial (stepsMeet_cons rfl (by decide) ?_))
  refine stepsMeet_cons rfl (by decide) (stepsMeet_cons rfl (by decide) ?_)
  refine stepsMeet_cons rfl (by decide) (stepsMeet_cons rfl (by decide) ?_)
  exact stepsMeet_cons rfl (by decide) (stepsMeet_cons rfl (by decide) trivial)

/-- Two setups of one slot in flight are given the same id. -/
theorem setupDataCall_same_id :
    ∃ s, run (step 11) init [.setupDataCall .socket1 1, .setupDataCall .socket1 2] = some s
      ∧ s.given = [(.socket1, 1), (.socket1, 1)] ∧ ¬ s.Ok :=
  ⟨_, rfl, rfl, fun h => (pairwise_cons.mp h.distinct).1 _ mem_cons_self rfl
    (by decide) rfl⟩

end DataCallState

end Hal
