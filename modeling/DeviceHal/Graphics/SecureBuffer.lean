import DeviceHal.Core.Machine
import DeviceHal.Core.Ledger

/-!
# Secure buffers of the gralloc extension

A gralloc-extra handle has a record of one secure ION buffer.  A request to allocate takes an ION handle and asks for
its physical address; a request to free, and `ge_release`, give the handle back.  Whether there is one is read off the
physical address: zero says that there is none.

**The defect.**  The query for the physical address may fail, and nobody looks.  Then the address stays zero, and the
ION handle is in the record but not seen: it is not freed, and the next allocation writes over it.

* `gePerformAllocSecHwc`, `gePerformFreeSecHwc`, `geRelease` — the two requests and the release of the handle, with the
  answers of the ION driver as arguments.
* `Inv`, `NoLeak` — the record has a handle that is held, and the only one.  A handle that is not in the record is never
  freed, so that what a run ends in shows what happened on the way.
* **`secure_released_iff`** — when each handle is freed exactly once by the end of `ge_release`.
-/

namespace Hal

open List Ledger

/-- An error number: what a call returns that failed. -/
abbrev Errno := { e : ℤ // e ≠ 0 }

/-- `ge_sec_hwc_t`. -/
structure GeSecHwc where
  hnd64 : ℕ
  geHnd : ℕ
  ionHnd : ℕ
  secHnd : ℕ

/-- A record of zeros: what a new handle has, and what `memset` leaves. -/
def GeSecHwc.zero : GeSecHwc := ⟨0, 0, 0, 0⟩

/-- The record, and what was taken from the ION driver and given back. -/
structure GeState where
  sechwc : GeSecHwc
  log : List (Transfer ℕ)

/-- The answer of `ION_SYS_GET_PHYS` written to `pphys`, if there is one. -/
def geIonGetPhys (answer : Except Errno ℕ) (pphys : ℕ) : ℤ × ℕ :=
  match answer with
  | .error _ => (1, pphys)
  | .ok phyAddr => (0, phyAddr)

/-- The requests, with what `ion_alloc` and the query for the physical address would answer. -/
inductive SecureRequest where
  | alloc (ionAlloc phys : Except Errno ℕ)
  | free

namespace GeState

-- the buffer handle and the gralloc-extra handle of the requests, and the ION client of the buffer
variable (hnd geHnd : ℕ) (ionClient : Except Errno ℕ)

def gePerformAllocSecHwc (ionAlloc phys : Except Errno ℕ) (s : GeState) : ℤ × GeState :=
  if s.sechwc.secHnd = 0 then
    match ionClient with
    | .error err => (err, s)
    | .ok _ =>
      match ionAlloc with
      | .error err => (err, s)
      | .ok ionHnd =>
        -- what `_ge_ion_get_phys` returns is dropped
        (0, ⟨⟨hnd, geHnd, ionHnd, (geIonGetPhys phys s.sechwc.secHnd).2⟩, s.log ++ [.acquire ionHnd]⟩)
  else (1, s)

def gePerformFreeSecHwc (s : GeState) : ℤ × GeState :=
  if s.sechwc.secHnd ≠ 0 ∧ s.sechwc.hnd64 = hnd then
    match ionClient with
    | .error err => (err, s)
    | .ok _ => (0, ⟨.zero, s.log ++ [.release s.sechwc.ionHnd]⟩)
  else (0, s)

/-- `ge_release`, as far as the record goes. -/
def geRelease (s : GeState) : GeState := (s.gePerformFreeSecHwc hnd ionClient).2

/-- One request.  The driver gives no handle that is in use. -/
def step (s : GeState) : SecureRequest → Option GeState
  | .alloc ionAlloc phys =>
    if ∀ ionHnd ∈ ionAlloc.toOption, ¬ Holds s.log ionHnd then
      some (s.gePerformAllocSecHwc hnd geHnd ionClient ionAlloc phys).2
    else none
  | .free => some (s.gePerformFreeSecHwc hnd ionClient).2

def start : GeState := ⟨.zero, []⟩

/-- An allocation that succeeds is followed by a query that gives an address. -/
def Regular (s : GeState) : SecureRequest → Prop
  | .alloc ionAlloc phys =>
    s.sechwc.secHnd = 0 → ionClient.isOk → ionAlloc.isOk → (geIonGetPhys phys 0).2 ≠ 0
  | .free => True

instance (s : GeState) : DecidablePred (s.Regular ionClient)
  | .alloc ionAlloc phys =>
    inferInstanceAs
      (Decidable (s.sechwc.secHnd = 0 → ionClient.isOk → ionAlloc.isOk → (geIonGetPhys phys 0).2 ≠ 0))
  | .free => isTrue trivial

/-! ## The record and the handles that are held -/

/-- A handle that the record shows is held, and can be freed. -/
structure Inv (s : GeState) : Prop where
  sane : Sane s.log
  held : s.sechwc.secHnd ≠ 0 → Holds s.log s.sechwc.ionHnd ∧ s.sechwc.hnd64 = hnd ∧ ionClient.isOk

/-- No handle is held but the one that the record shows. -/
def NoLeak (s : GeState) : Prop := ∀ r, Holds s.log r → s.sechwc.secHnd ≠ 0 ∧ r = s.sechwc.ionHnd

variable {hnd geHnd ionClient} {s s' : GeState} {request : SecureRequest}

/-- What a request can do: nothing, take a handle that is new, or give the one in the record back. -/
lemma step_cases (hs' : s.step hnd geHnd ionClient request = some s') :
    (s' = s ∧ s.Regular ionClient request)
      ∨ (∃ ionHnd secHnd, s.sechwc.secHnd = 0 ∧ ionClient.isOk ∧ ¬ Holds s.log ionHnd
        ∧ s' = ⟨⟨hnd, geHnd, ionHnd, secHnd⟩, s.log ++ [.acquire ionHnd]⟩
        ∧ (s.Regular ionClient request ↔ secHnd ≠ 0))
      ∨ (s.sechwc.secHnd ≠ 0 ∧ s' = ⟨.zero, s.log ++ [.release s.sechwc.ionHnd]⟩
        ∧ s.Regular ionClient request) := by
  cases request with
  | alloc ionAlloc phys =>
    obtain ⟨hfresh, rfl⟩ := Option.ite_some_none_eq_some.mp hs'
    unfold gePerformAllocSecHwc
    by_cases hsec : s.sechwc.secHnd = 0
    · rw [if_pos hsec]
      cases ionClient with
      | error err => exact .inl ⟨rfl, fun _ hclient => absurd hclient Bool.false_ne_true⟩
      | ok client =>
        cases ionAlloc with
        | error err => exact .inl ⟨rfl, fun _ _ halloc => absurd halloc Bool.false_ne_true⟩
        | ok ionHnd =>
          refine .inr (.inl ⟨ionHnd, _, hsec, rfl, hfresh ionHnd rfl, rfl, ?_⟩)
          rw [hsec]
          exact ⟨fun h => h hsec rfl rfl, fun h _ _ _ => h⟩
    · rw [if_neg hsec]
      exact .inl ⟨rfl, fun hzero => absurd hzero hsec⟩
  | free =>
    cases hs'
    unfold gePerformFreeSecHwc
    split_ifs with hrecord
    · cases ionClient with
      | error err => exact .inl ⟨rfl, trivial⟩
      | ok client => exact .inr (.inr ⟨hrecord.1, rfl, trivial⟩)
    · exact .inl ⟨rfl, trivial⟩

lemma Inv.step (h : s.Inv hnd ionClient)
    (hs' : s.step hnd geHnd ionClient request = some s') : s'.Inv hnd ionClient := by
  obtain ⟨rfl, -⟩ | ⟨ionHnd, secHnd, -, hclient, hfresh, rfl, -⟩ | ⟨hsec, rfl, -⟩ := step_cases hs'
  · exact h
  · refine ⟨h.sane.acquire hfresh, fun _ => ⟨?_, rfl, hclient⟩⟩
    exact (holds_acquire h.sane ionHnd ionHnd).mpr (.inl rfl)
  · exact ⟨h.sane.release (h.held hsec).1, fun hzero => absurd rfl hzero⟩

/-- The handle that the record shows, if it shows one. -/
def shown (s : GeState) : List ℕ := if s.sechwc.secHnd = 0 then [] else [s.sechwc.ionHnd]

lemma noLeak_iff_covers : s.NoLeak ↔ Covers s.log s.shown := by
  unfold NoLeak Covers shown
  split_ifs with hsec
  · simp [hsec]
  · simp [hsec]

lemma Inv.owns (h : s.Inv hnd ionClient) : Owns s.log s.shown := by
  unfold shown
  split_ifs with hsec
  · exact ⟨h.sane, nodup_nil, fun _ hr => absurd hr not_mem_nil⟩
  · exact ⟨h.sane, nodup_singleton _, forall_mem_singleton.mpr (h.held hsec).1⟩

/-- **A leak stays**: there is none after a request just if there was none before it, and it makes none. -/
lemma Inv.noLeak_iff (h : s.Inv hnd ionClient)
    (hs' : s.step hnd geHnd ionClient request = some s') : s'.NoLeak ↔ s.NoLeak ∧ s.Regular ionClient request := by
  obtain ⟨rfl, hregular⟩ | ⟨ionHnd, secHnd, hsec, -, hfresh, rfl, hregular⟩ | ⟨hsec, rfl, hregular⟩ := step_cases hs'
  · simp [hregular]
  · have hfree : ∀ r ∈ [ionHnd], ¬ Holds s.log r := forall_mem_singleton.mpr hfresh
    rw [hregular, noLeak_iff_covers, noLeak_iff_covers]
    -- without an address the handle is taken and not shown
    by_cases hphys : secHnd = 0
    · have hlost := (h.owns.lose (nodup_singleton ionHnd) hfree).2
      simpa [shown, hsec, hphys] using hlost
    · have hkept := (h.owns.keep (nodup_singleton ionHnd) hfree).2
      simpa [shown, hsec, hphys] using hkept
  · have hperm : s.shown.Perm ([s.sechwc.ionHnd] ++ []) := by
      rw [shown, if_neg hsec, append_nil]
    rw [and_iff_left hregular, noLeak_iff_covers, noLeak_iff_covers]
    exact (h.owns.giveBack hperm).2

lemma inv_start : start.Inv hnd ionClient := ⟨sane_nil, fun hzero => absurd rfl hzero⟩

lemma noLeak_start : start.NoLeak := fun r hr => absurd hr (not_holds_nil r)

lemma Inv.balanced_geRelease_iff (h : s.Inv hnd ionClient) : Balanced (s.geRelease hnd ionClient).log ↔ s.NoLeak := by
  have hstep : s.step hnd 0 ionClient .free = some (s.geRelease hnd ionClient) := rfl
  have hzero : (s.geRelease hnd ionClient).sechwc.secHnd = 0 := by
    by_cases hsec : s.sechwc.secHnd = 0
    · simp [geRelease, gePerformFreeSecHwc, hsec]
    · obtain ⟨-, hhnd, hclient⟩ := h.held hsec
      cases ionClient with
      | error err => exact absurd hclient Bool.false_ne_true
      | ok client => simp [geRelease, gePerformFreeSecHwc, hsec, hhnd, GeSecHwc.zero]
  have hleak := h.noLeak_iff hstep
  rw [balanced_iff, and_iff_right (h.step hstep).sane]
  simpa [NoLeak, hzero, Regular] using hleak

/-- **Secure buffers are given back.**  After any requests on one handle, with any answers of the ION driver, and
`ge_release`, no ION handle has been freed that was not held; and each one was freed exactly once iff every allocation
that succeeded was followed by a query that gave an address other than zero. -/
theorem secure_released_iff (hnd geHnd : ℕ) (ionClient : Except Errno ℕ) (requests : List SecureRequest) {s : GeState}
    (hs : run (step hnd geHnd ionClient) start requests = some s) :
    Sane (s.geRelease hnd ionClient).log
      ∧ (Balanced (s.geRelease hnd ionClient).log
        ↔ StepsMeet (step hnd geHnd ionClient) (Regular ionClient) start requests) := by
  have hinv : s.Inv hnd ionClient := run_invariant (fun _ _ _ h hs' => h.step hs') inv_start hs
  have hfree : s.step hnd geHnd ionClient .free = some (s.geRelease hnd ionClient) := rfl
  refine ⟨(hinv.step hfree).sane, hinv.balanced_geRelease_iff.trans ?_⟩
  rw [run_iff_stepsMeet (I := Inv hnd ionClient) (fun _ _ _ h hs' => h.step hs') (fun _ _ _ h hs' => h.noLeak_iff hs')
    inv_start hs]
  exact and_iff_right noLeak_start

/-- The buffer is allocated, freed and allocated again, with the same ION handle. -/
def reused : List SecureRequest := [.alloc (.ok 7) (.ok 4096), .free, .alloc (.ok 7) (.ok 4096)]

theorem secure_released_reused :
    ∃ s, run (step 100 1 (.ok 3)) start reused = some s
      ∧ (s.geRelease 100 (.ok 3)).log = [.acquire 7, .release 7, .acquire 7, .release 7]
      ∧ Balanced (s.geRelease 100 (.ok 3)).log :=
  ⟨_, rfl, by decide, (secure_released_iff 100 1 (.ok 3) reused rfl).2.mpr (by decide)⟩

/-- An allocation whose query for the address fails. -/
def noAddress : List SecureRequest := [.alloc (.ok 7) (.error ⟨-1, by decide⟩)]

/-- **The defect**: the query fails, and the handle that was allocated is never freed. -/
theorem secure_handle_leaks :
    ∃ s, run (step 100 1 (.ok 3)) start noAddress = some s
      ∧ (s.geRelease 100 (.ok 3)).log = [.acquire 7]
      ∧ ¬ Balanced (s.geRelease 100 (.ok 3)).log
      ∧ ¬ StepsMeet (step 100 1 (.ok 3)) (Regular (.ok 3)) start noAddress := by
  refine ⟨_, rfl, by decide, fun h => ?_, by decide⟩
  exact absurd (h.settled 7) (by decide)

end GeState

end Hal
