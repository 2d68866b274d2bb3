import Mathlib.Algebra.Group.Nat.Defs
import Mathlib.Data.List.Nodup
import DeviceHal.Core.Machine

/-!
# Addresses of the M4U

`libm4u` gets addresses from the kernel (`m4u_alloc_mva`) and gives them back (`m4u_dealloc_mva`).  For each module a
flag says whether the M4U is used; it is changed at any time, by any client.

**The defect.**  An allocation goes to the kernel whatever the flag is, with another hint of where to start.  A
deallocation while the flag is off does nothing, and reports that all is well.

* `m4uAllocMva`, `m4uDeallocMva` — the two functions, in either build; the answers of the system are arguments.
* `M4uState` — the flags, what was sent to the kernel, what the kernel has mapped, and what the clients have
  outstanding: got with success, and not yet given back with success.
* **`mva_dealloc_sent_iff`** — every deallocation that reports success was sent to the kernel **iff** the flag is on
  at each of them.
-/

namespace Hal

abbrev m4uClntmodMax : ℕ := 42

/-- `M4U_STATUS_ENUM`. -/
inductive M4uStatus where
  | ok
  | invalidCmd
  | invalidHandle
  | noAvailableRangeRegs
  | kernelFault
  | mvaOverflow
  | invalidParam
deriving DecidableEq

/-- A buffer of a module, with the address it has in the M4U. -/
structure M4uBuffer where
  eModuleID : Fin m4uClntmodMax
  bufAddr : ℕ
  bufSize : ℕ
  mvaStart : ℕ
deriving DecidableEq

/-- `MTK_M4U_T_ALLOC_MVA`, `MTK_M4U_T_DEALLOC_MVA`, with the fields that are filled in. -/
inductive M4uIoctl where
  | allocMva (buffer : M4uBuffer) (security cacheCoherent : ℤ)
  | deallocMva (buffer : M4uBuffer)
deriving DecidableEq

structure M4uState where
  mUseM4U : Fin m4uClntmodMax → Bool
  sent : List M4uIoctl
  mapped : List M4uBuffer
  outstanding : List M4uBuffer

/-- The calls, with what `mlock` and `ioctl` answer. -/
inductive M4uAct where
  | alloc (eModuleID : Fin m4uClntmodMax) (bufAddr bufSize : ℕ) (security cacheCoherent : ℤ) (mlock : Bool)
      (ioctl : Option ℕ)
  | dealloc (buffer : M4uBuffer) (ioctl : Bool)
  | enable (eModuleID : Fin m4uClntmodMax)
  | disable (eModuleID : Fin m4uClntmodMax)

namespace M4uState

/-- The request to allocate, with the hint of where to start; what it returns and what it writes to `*pRetMVAAddr`. -/
def ioctlAllocMva (s : M4uState) (buffer : M4uBuffer) (security cacheCoherent : ℤ) (ioctl : Option ℕ) :
    M4uStatus × Option ℕ × M4uState :=
  let sent := s.sent ++ [.allocMva buffer security cacheCoherent]
  match ioctl with
  | none => (.kernelFault, none, { s with sent := sent })
  | some mva => (.ok, some mva, { s with sent := sent, mapped := { buffer with mvaStart := mva } :: s.mapped })

-- whether `MT6582` is defined, and the descriptor of the driver
variable (mt6582 : Bool) (mFileDescriptor : ℤ)

def m4uAllocMva (s : M4uState) (eModuleID : Fin m4uClntmodMax) (bufAddr bufSize : ℕ) (security cacheCoherent : ℤ)
    (mlock : Bool) (ioctl : Option ℕ) : M4uStatus × Option ℕ × M4uState :=
  if s.mUseM4U eModuleID = false then
    if mFileDescriptor < 0 then (.invalidHandle, none, s)
    -- the hint is -1, which says that it is pmem
    else s.ioctlAllocMva ⟨eModuleID, bufAddr, bufSize, 2 ^ 32 - 1⟩ security cacheCoherent ioctl
  else if mFileDescriptor < 0 then (.invalidHandle, none, s)
  else if mt6582 && !mlock then (.invalidParam, some 0, s)
  else s.ioctlAllocMva ⟨eModuleID, bufAddr, bufSize, 0⟩ security cacheCoherent ioctl

/-- `m4u_dealloc_mva`.  In the build for MT6582 the buffer is unlocked as well, whatever `ioctl` returns. -/
def m4uDeallocMva (s : M4uState) (buffer : M4uBuffer) (ioctl : Bool) : M4uStatus × M4uState :=
  if s.mUseM4U buffer.eModuleID = false then (.ok, s)
  else if mFileDescriptor < 0 then (.invalidHandle, s)
  else
    let sent := s.sent ++ [.deallocMva buffer]
    if ioctl then (.ok, { s with sent := sent, mapped := s.mapped.erase buffer })
    else (.kernelFault, { s with sent := sent })

/-- The flag of a module is set, and returned as it was. -/
def m4uSetM4uFunc (s : M4uState) (eModuleID : Fin m4uClntmodMax) (use : Bool) : Bool × M4uState :=
  (s.mUseM4U eModuleID, { s with mUseM4U := fun i => if i = eModuleID then use else s.mUseM4U i })

def m4uEnableM4uFunc (s : M4uState) (eModuleID : Fin m4uClntmodMax) : Bool × M4uState := s.m4uSetM4uFunc eModuleID true

def m4uDisableM4uFunc (s : M4uState) (eModuleID : Fin m4uClntmodMax) : Bool × M4uState := s.m4uSetM4uFunc eModuleID false

/-- One call, and what the client makes of what it returns.  The kernel gives no address that is in use. -/
def step (s : M4uState) : M4uAct → Option M4uState
  | .alloc eModuleID bufAddr bufSize security cacheCoherent mlock ioctl =>
    if ∀ mva ∈ ioctl, ⟨eModuleID, bufAddr, bufSize, mva⟩ ∉ s.mapped then
      let (status, ret, s') :=
        s.m4uAllocMva mt6582 mFileDescriptor eModuleID bufAddr bufSize security cacheCoherent mlock ioctl
      let got := if status = .ok then ret.toList.map (M4uBuffer.mk eModuleID bufAddr bufSize) else []
      some { s' with outstanding := got ++ s.outstanding }
    else none
  | .dealloc buffer ioctl =>
    let (status, s') := s.m4uDeallocMva mFileDescriptor buffer ioctl
    some { s' with outstanding := if status = .ok then s.outstanding.erase buffer else s.outstanding }
  | .enable eModuleID => some (s.m4uEnableM4uFunc eModuleID).2
  | .disable eModuleID => some (s.m4uDisableM4uFunc eModuleID).2

def start : M4uState := ⟨fun _ => false, [], [], []⟩

/-- A deallocation of an address that is outstanding is sent to the kernel if it reports success. -/
def DeallocSent (s : M4uState) : M4uAct → Prop
  | .dealloc buffer ioctl =>
    buffer ∈ s.outstanding → (s.m4uDeallocMva mFileDescriptor buffer ioctl).1 = .ok →
      (s.m4uDeallocMva mFileDescriptor buffer ioctl).2.sent = s.sent ++ [.deallocMva buffer]
  | _ => True

/-- It is made while its module uses the M4U. -/
def Regular (s : M4uState) : M4uAct → Prop
  | .dealloc buffer _ => buffer ∈ s.outstanding → s.mUseM4U buffer.eModuleID = true
  | _ => True

instance (s : M4uState) : DecidablePred s.Regular
  | .dealloc buffer _ =>
    inferInstanceAs (Decidable (buffer ∈ s.outstanding → s.mUseM4U buffer.eModuleID = true))
  | .alloc _ _ _ _ _ _ _ | .enable _ | .disable _ => isTrue trivial

/-- The kernel has mapped what is outstanding. -/
def Agrees (s : M4uState) : Prop := ∀ buffer, buffer ∈ s.mapped ↔ buffer ∈ s.outstanding

structure Inv (s : M4uState) : Prop where
  agrees : s.Agrees
  mappedOnce : s.mapped.Nodup
  outstandingOnce : s.outstanding.Nodup

/-! ## Steps -/

variable {mt6582 mFileDescriptor} {s s' : M4uState} {act : M4uAct}

/-- **Allocations** go to the kernel in either state of the flag, if at all. -/
lemma m4uAllocMva_cases (mt6582 : Bool) (mFileDescriptor : ℤ) (s : M4uState) (eModuleID : Fin m4uClntmodMax)
    (bufAddr bufSize : ℕ) (security cacheCoherent : ℤ) (mlock : Bool) (ioctl : Option ℕ) :
    (∃ status ret sent,
        s.m4uAllocMva mt6582 mFileDescriptor eModuleID bufAddr bufSize security cacheCoherent mlock ioctl
          = (status, ret, { s with sent := sent }) ∧ status ≠ .ok)
      ∨ ∃ mva sent, ioctl = some mva
        ∧ s.m4uAllocMva mt6582 mFileDescriptor eModuleID bufAddr bufSize security cacheCoherent mlock ioctl
          = (.ok, some mva, { s with sent := sent, mapped := ⟨eModuleID, bufAddr, bufSize, mva⟩ :: s.mapped }) := by
  have hioctl : ∀ hint,
      (∃ sent, s.ioctlAllocMva ⟨eModuleID, bufAddr, bufSize, hint⟩ security cacheCoherent ioctl
          = (.kernelFault, none, { s with sent := sent }))
        ∨ ∃ mva sent, ioctl = some mva
          ∧ s.ioctlAllocMva ⟨eModuleID, bufAddr, bufSize, hint⟩ security cacheCoherent ioctl
            = (.ok, some mva, { s with sent := sent, mapped := ⟨eModuleID, bufAddr, bufSize, mva⟩ :: s.mapped }) := by
    intro hint
    cases ioctl with
    | none => exact .inl ⟨_, rfl⟩
    | some mva => exact .inr ⟨mva, _, rfl, rfl⟩
  unfold m4uAllocMva
  split_ifs
  · exact .inl ⟨_, _, s.sent, rfl, by decide⟩
  · exact (hioctl _).imp_left fun ⟨sent, h⟩ => ⟨_, _, sent, h, by decide⟩
  · exact .inl ⟨_, _, s.sent, rfl, by decide⟩
  · exact .inl ⟨_, _, s.sent, rfl, by decide⟩
  · exact (hioctl _).imp_left fun ⟨sent, h⟩ => ⟨_, _, sent, h, by decide⟩

lemma step_cases (hopen : 0 ≤ mFileDescriptor) (hs' : s.step mt6582 mFileDescriptor act = some s') :
    (s'.mapped = s.mapped ∧ s'.outstanding = s.outstanding ∧ s.Regular act)
      ∨ (∃ buffer ∉ s.mapped, s'.mapped = buffer :: s.mapped ∧ s'.outstanding = buffer :: s.outstanding ∧ s.Regular act)
      ∨ (∃ buffer, s'.mapped = s.mapped.erase buffer ∧ s'.outstanding = s.outstanding.erase buffer ∧ s.Regular act)
      ∨ ∃ buffer, s'.mapped = s.mapped ∧ s'.outstanding = s.outstanding.erase buffer
        ∧ (s.Regular act ↔ buffer ∉ s.outstanding) := by
  cases act with
  | alloc eModuleID bufAddr bufSize security cacheCoherent mlock ioctl =>
    rw [step, Option.ite_none_right_eq_some] at hs'
    obtain ⟨hfresh, hs'⟩ := hs'
    obtain ⟨status, ret, sent, hcall, hstatus⟩ | ⟨mva, sent, rfl, hcall⟩ :=
      m4uAllocMva_cases mt6582 mFileDescriptor s eModuleID bufAddr bufSize security cacheCoherent mlock ioctl
    · rw [hcall] at hs'
      cases hs'
      refine .inl ⟨rfl, ?_, trivial⟩
      simp [hstatus]
    · rw [hcall] at hs'
      cases hs'
      exact .inr (.inl ⟨_, hfresh mva rfl, rfl, rfl, trivial⟩)
  | dealloc buffer ioctl =>
    by_cases huse : s.mUseM4U buffer.eModuleID = false
    · rw [step, m4uDeallocMva, if_pos huse] at hs'
      cases hs'
      refine .inr (.inr (.inr ⟨buffer, rfl, rfl, ?_⟩))
      simp [Regular, huse]
    · have hregular : s.Regular (.dealloc buffer ioctl) := fun _ => Bool.not_eq_false _ ▸ huse
      rw [step, m4uDeallocMva, if_neg huse, if_neg (Int.not_lt.mpr hopen)] at hs'
      cases ioctl with
      | true =>
        cases hs'
        exact .inr (.inr (.inl ⟨buffer, rfl, rfl, hregular⟩))
      | false =>
        cases hs'
        exact .inl ⟨rfl, rfl, hregular⟩
  | enable | disable =>
    cases hs'
    exact .inl ⟨rfl, rfl, trivial⟩

lemma Inv.step (hopen : 0 ≤ mFileDescriptor) (h : s.Inv) (hregular : s.Regular act)
    (hs' : s.step mt6582 mFileDescriptor act = some s') : s'.Inv := by
  obtain ⟨hmapped, hout, -⟩ | ⟨buffer, hfresh, hmapped, hout, -⟩ | ⟨buffer, hmapped, hout, -⟩
    | ⟨buffer, hmapped, hout, hiff⟩ := step_cases hopen hs'
  · refine ⟨fun b => ?_, hmapped ▸ h.mappedOnce, hout ▸ h.outstandingOnce⟩
    rw [hmapped, hout]
    exact h.agrees b
  · have hnew : buffer ∉ s.outstanding := fun hmem => hfresh ((h.agrees buffer).mpr hmem)
    refine ⟨fun b => ?_, hmapped ▸ h.mappedOnce.cons hfresh, hout ▸ h.outstandingOnce.cons hnew⟩
    rw [hmapped, hout, List.mem_cons, List.mem_cons, h.agrees b]
  · refine ⟨fun b => ?_, hmapped ▸ h.mappedOnce.erase buffer, hout ▸ h.outstandingOnce.erase buffer⟩
    rw [hmapped, hout, h.mappedOnce.mem_erase_iff, h.outstandingOnce.mem_erase_iff, h.agrees b]
  · -- only what is not outstanding was given back while the flag was off
    rw [List.erase_of_not_mem (hiff.mp hregular)] at hout
    refine ⟨fun b => ?_, hmapped ▸ h.mappedOnce, hout ▸ h.outstandingOnce⟩
    rw [hmapped, hout]
    exact h.agrees b

/-- **A deallocation while the flag is off**: the kernel keeps what the client was told is gone. -/
lemma Inv.not_agrees (hopen : 0 ≤ mFileDescriptor) (h : s.Inv) (hirregular : ¬ s.Regular act)
    (hs' : s.step mt6582 mFileDescriptor act = some s') : ¬ s'.Agrees := by
  obtain ⟨-, -, hregular⟩ | ⟨-, -, -, -, hregular⟩ | ⟨-, -, -, hregular⟩ | ⟨buffer, hmapped, hout, hiff⟩ :=
    step_cases hopen hs'
  · exact absurd hregular hirregular
  · exact absurd hregular hirregular
  · exact absurd hregular hirregular
  · intro hagrees
    have hmem : buffer ∈ s.outstanding := by
      by_contra hmem
      exact hirregular (hiff.mpr hmem)
    have hgone : buffer ∈ s.outstanding.erase buffer := by
      rw [← hout]
      exact (hagrees buffer).mp (hmapped ▸ (h.agrees buffer).mpr hmem)
    exact h.outstandingOnce.not_mem_erase hgone

lemma inv_start : start.Inv := ⟨fun _ => Iff.rfl, List.nodup_nil, List.nodup_nil⟩

lemma deallocSent_iff (hopen : 0 ≤ mFileDescriptor) (s : M4uState) (act : M4uAct) :
    s.DeallocSent mFileDescriptor act ↔ s.Regular act := by
  cases act with
  | dealloc buffer ioctl =>
    refine imp_congr_right fun _ => ?_
    by_cases huse : s.mUseM4U buffer.eModuleID = false
    · simp [m4uDeallocMva, huse]
    · rw [m4uDeallocMva, if_neg huse, if_neg (Int.not_lt.mpr hopen)]
      cases ioctl with
      | true | false => simp [Bool.not_eq_false _ ▸ huse]
  | alloc | enable | disable => exact Iff.rfl

/-- **Addresses go back to the kernel.**  Over any interleaving of the calls, on a driver that is open and in either
build: each deallocation of an address that is outstanding is sent to the kernel whenever it reports success, iff each
is made while its module uses the M4U.  The same is what it takes for the kernel to have mapped, all along, just what
is outstanding. -/
theorem mva_dealloc_sent_iff (mt6582 : Bool) {mFileDescriptor : ℤ} (hopen : 0 ≤ mFileDescriptor) (acts : List M4uAct)
    {s : M4uState} (hs : run (step mt6582 mFileDescriptor) start acts = some s) :
    (StepsMeet (step mt6582 mFileDescriptor) (DeallocSent mFileDescriptor) start acts
        ↔ StepsMeet (step mt6582 mFileDescriptor) Regular start acts)
      ∧ (Along (step mt6582 mFileDescriptor) Agrees start acts
        ↔ StepsMeet (step mt6582 mFileDescriptor) Regular start acts) := by
  constructor
  · exact stepsMeet_iff (I := fun _ => True) (fun _ _ _ _ _ _ => trivial) (fun s act _ => deallocSent_iff hopen s act)
      trivial
  · exact along_iff_stepsMeet (I := Inv) (fun _ _ _ h hregular hs' => h.step hopen hregular hs') (fun _ h => h.agrees)
      (fun _ _ _ h hirregular hs' => h.not_agrees hopen hirregular hs') inv_start hs

/-- A buffer of module 4 at 4096, which the kernel maps at 8192. -/
def rdmaBuffer : M4uBuffer := ⟨4, 4096, 256, 8192⟩

/-- It is allocated with the flag off, and given back with the flag on. -/
def enabledBetween : List M4uAct := [.alloc 4 4096 256 0 0 true (some 8192), .enable 4, .dealloc rdmaBuffer true]

/-- It is allocated with the flag on, and given back with the flag off. -/
def disabledBetween : List M4uAct :=
  [.enable 4, .alloc 4 4096 256 0 0 true (some 8192), .disable 4, .dealloc rdmaBuffer true]

theorem mva_dealloc_sent_enabledBetween :
    ∃ s, run (step true 3) start enabledBetween = some s ∧ .deallocMva rdmaBuffer ∈ s.sent ∧ s.mapped = []
      ∧ StepsMeet (step true 3) (DeallocSent 3) start enabledBetween :=
  ⟨_, rfl, by decide, by decide, (mva_dealloc_sent_iff true (by decide) enabledBetween rfl).1.mpr (by decide)⟩

/-- **The defect**: the deallocation reports success, nothing was sent, and the kernel has the buffer mapped. -/
theorem mva_kept_when_disabled :
    (∃ s, run (step true 3) start (disabledBetween.take 3) = some s ∧ rdmaBuffer ∈ s.outstanding
        ∧ (s.m4uDeallocMva 3 rdmaBuffer true).1 = .ok ∧ (s.m4uDeallocMva 3 rdmaBuffer true).2.sent = s.sent
        ∧ rdmaBuffer ∈ (s.m4uDeallocMva 3 rdmaBuffer true).2.mapped)
      ∧ ¬ StepsMeet (step true 3) Regular start disabledBetween :=
  ⟨⟨_, rfl, by decide, by decide, by decide, by decide⟩, by decide⟩

end M4uState

end Hal
