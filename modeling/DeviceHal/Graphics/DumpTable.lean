import DeviceHal.Core.Machine
import DeviceHal.Core.KeyedVector

/-!
# The table of dump tunnels

`GuiExtService` keeps a tunnel under every key that was registered.  `regDump` looks whether the tunnel is alive and
links a notifier to its death before it takes the lock; under the lock it clears dead tunnels out of a large table, and
puts the tunnel under its key in the place of whatever was there.  A notifier has nothing but the key, and unregisters
it.

**The defect.**  The notice of a tunnel's death may come when another tunnel is under the key, and removes that one.

* `DumpState` — the table, the calls that are on their way to the lock, the notices that are on their way to the
  service, and under each key the tunnel that should be there (`latest`).
* **`dumpTable_right_iff`** — when the table has under each key the tunnel that should be there, and no other.
-/

namespace Hal

open List Option SortedVector

/-- How far a call of `regDump` is on its way to the lock: it has found the tunnel alive, or has linked the notifier. -/
inductive RegPhase where
  | checked
  | linked
deriving DecidableEq

structure RegCall where
  tunnel : ℕ
  key : ℕ
  phase : RegPhase
deriving DecidableEq

/-- A notifier: the tunnel it is linked to, and the key, which is all it knows. -/
structure DeathNotifier where
  tunnel : ℕ
  key : ℕ
deriving DecidableEq

/-- `GuiExtService`, with the tunnels that are dead, the calls of `regDump`, the notifiers that are linked and those
whose notice is on its way.  `latest` is a ghost: the tunnel registered last under a key, unless the key was
unregistered or the death of that tunnel was notified since. -/
structure DumpState where
  mDumpTunnels : KeyedVector ℕ
  dead : List ℕ
  calls : List RegCall
  links : List DeathNotifier
  notices : List DeathNotifier
  latest : KeyedVector ℕ

/-- What happens: the three parts of `regDump`, `unregDump`, the death of a tunnel and the notice of it. -/
inductive DumpAct where
  | regCheck (tunnel key : ℕ)
  | regLink (tunnel key : ℕ)
  | regAdd (tunnel key : ℕ)
  | unregDump (key : ℕ)
  | die (tunnel : ℕ)
  | notice (tunnel key : ℕ)

/-- The loop that removes zombies, for the entries before position `n`, from the last to the first. -/
def removeZombies (dead : List ℕ) : ℕ → KeyedVector ℕ → KeyedVector ℕ
  | 0, v => v
  | n + 1, v =>
    match v.valueAt n with
    | none => removeZombies dead n v
    | some t => removeZombies dead n (if t ∈ dead then v.removeAt n else v)

def cleanUp (dead : List ℕ) (v : KeyedVector ℕ) : KeyedVector ℕ :=
  if v.size > 200 then removeZombies dead v.size v else v

namespace DumpState

/-- One step; `none` if there is no such call or notice. -/
def step (s : DumpState) : DumpAct → Option DumpState
  | .regCheck tunnel key =>
    -- a tunnel that is dead is refused
    some (if tunnel ∈ s.dead then s else { s with calls := ⟨tunnel, key, .checked⟩ :: s.calls })
  | .regLink tunnel key =>
    if ⟨tunnel, key, .checked⟩ ∈ s.calls then
      some
        { s with
          calls := ⟨tunnel, key, .linked⟩ :: s.calls.erase ⟨tunnel, key, .checked⟩
          -- `linkToDeath` fails if the tunnel has died meanwhile, and nobody looks
          links := if tunnel ∈ s.dead then s.links else ⟨tunnel, key⟩ :: s.links }
    else none
  | .regAdd tunnel key =>
    if ⟨tunnel, key, .linked⟩ ∈ s.calls then
      some
        { s with
          calls := s.calls.erase ⟨tunnel, key, .linked⟩
          mDumpTunnels := (cleanUp s.dead s.mDumpTunnels).add key tunnel
          latest := s.latest.add key tunnel }
    else none
  | .unregDump key =>
    some { s with mDumpTunnels := s.mDumpTunnels.removeItem key, latest := s.latest.removeItem key }
  | .die tunnel =>
    some
      { s with
        dead := tunnel :: s.dead
        notices := s.links.filter (fun link => link.tunnel = tunnel) ++ s.notices
        links := s.links.filter fun link => link.tunnel ≠ tunnel }
  | .notice tunnel key =>
    if ⟨tunnel, key⟩ ∈ s.notices then
      some
        { s with
          notices := s.notices.erase ⟨tunnel, key⟩
          mDumpTunnels := s.mDumpTunnels.removeItem key
          latest := if s.latest.valueFor key = some tunnel then s.latest.removeItem key else s.latest }
    else none

def start : DumpState := ⟨.empty, [], [], [], [], .empty⟩

/-- The table has what should be there and is alive, and nothing that should not. -/
structure TableOk (s : DumpState) : Prop where
  kept : ∀ key t, s.latest.valueFor key = some t → t ∉ s.dead → s.mDumpTunnels.valueFor key = some t
  right : ∀ key t, s.mDumpTunnels.valueFor key = some t → s.latest.valueFor key = some t

/-- No notice comes while another tunnel that is alive is under its key. -/
def Regular (s : DumpState) : DumpAct → Prop
  | .notice tunnel key => ∀ t ∈ s.mDumpTunnels.valueFor key, t = tunnel ∨ t ∈ s.dead
  | _ => True

instance (s : DumpState) : DecidablePred s.Regular
  | .notice tunnel key =>
    inferInstanceAs (Decidable (∀ t ∈ s.mDumpTunnels.valueFor key, t = tunnel ∨ t ∈ s.dead))
  | .regCheck _ _ | .regLink _ _ | .regAdd _ _ | .unregDump _ | .die _ => isTrue trivial

end DumpState

/-! ## The clean-up -/

/-- **The loop** has kept of the entries it has come by those that are alive. -/
lemma entries_removeZombies (dead : List ℕ) (n : ℕ) (v : KeyedVector ℕ) :
    (removeZombies dead n v).entries = (v.entries.take n).filter (fun e => e.2 ∉ dead) ++ v.entries.drop n := by
  induction n generalizing v with
  | zero => rfl
  | succ n ih =>
    rw [removeZombies]
    by_cases hn : n < v.entries.length
    · have hat : v.valueAt n = some v.entries[n].2 := by
        rw [SortedVector.valueAt, getElem?_eq_getElem hn]
        rfl
      have htake : v.entries.take (n + 1) = v.entries.take n ++ [v.entries[n]] := take_succ_eq_append_getElem hn
      simp only [hat]
      rw [ih, htake, filter_append]
      by_cases hdead : v.entries[n].2 ∈ dead
      · have hlength : (v.entries.take n).length = n := length_take_of_le (Nat.le_of_lt hn)
        have herase : (v.removeAt n).entries = v.entries.take n ++ v.entries.drop (n + 1) :=
          eraseIdx_eq_take_drop_succ v.entries n
        rw [if_pos hdead, herase, take_left' hlength, drop_left' hlength]
        simp [hdead]
      · simp [hdead]
    · have hat : v.valueAt n = none := by
        rw [SortedVector.valueAt, getElem?_eq_none (Nat.not_lt.mp hn)]
        rfl
      simp only [hat]
      rw [ih, take_of_length_le (by omega), take_of_length_le (by omega), drop_of_length_le (by omega),
        drop_of_length_le (by omega)]

lemma cleanUp_eq_some {dead : List ℕ} {v : KeyedVector ℕ} {key t : ℕ} :
    (cleanUp dead v).valueFor key = some t → v.valueFor key = some t := by
  unfold cleanUp
  split_ifs
  · rw [valueFor_eq_some, valueFor_eq_some, entries_removeZombies, SortedVector.size]
    intro h
    rw [take_length, drop_length, append_nil] at h
    exact (mem_filter.mp h).1
  · exact id

/-- **No tunnel that is alive is removed.** -/
lemma cleanUp_of_alive {dead : List ℕ} {v : KeyedVector ℕ} {key t : ℕ} (hkey : v.valueFor key = some t)
    (halive : t ∉ dead) : (cleanUp dead v).valueFor key = some t := by
  unfold cleanUp
  split_ifs
  · rw [valueFor_eq_some, entries_removeZombies, SortedVector.size, take_length, drop_length, append_nil]
    exact mem_filter.mpr ⟨valueFor_eq_some.mp hkey, decide_eq_true halive⟩
  · exact hkey

/-! ## Steps -/

namespace DumpState

/-- What a step can do to the table: nothing, the locked part of `regDump`, or removing a key; and what it makes of
`latest` then. -/
lemma step_cases {s s' : DumpState} {act : DumpAct} (hs' : s.step act = some s') :
    (s'.mDumpTunnels = s.mDumpTunnels ∧ s'.latest = s.latest ∧ s.dead ⊆ s'.dead ∧ s.Regular act)
      ∨ (∃ tunnel key, s'.mDumpTunnels = (cleanUp s.dead s.mDumpTunnels).add key tunnel
        ∧ s'.latest = s.latest.add key tunnel ∧ s'.dead = s.dead ∧ s.Regular act)
      ∨ (∃ key, s'.mDumpTunnels = s.mDumpTunnels.removeItem key ∧ s'.latest = s.latest.removeItem key
        ∧ s'.dead = s.dead ∧ s.Regular act)
      ∨ ∃ tunnel key, act = .notice tunnel key ∧ s'.mDumpTunnels = s.mDumpTunnels.removeItem key
        ∧ s'.latest = (if s.latest.valueFor key = some tunnel then s.latest.removeItem key else s.latest)
        ∧ s'.dead = s.dead := by
  cases act with
  | regCheck tunnel key =>
    cases hs'
    left
    split_ifs
    · exact ⟨rfl, rfl, List.Subset.refl _, trivial⟩
    · exact ⟨rfl, rfl, List.Subset.refl _, trivial⟩
  | regLink tunnel key =>
    obtain ⟨-, rfl⟩ := ite_some_none_eq_some.mp hs'
    exact .inl ⟨rfl, rfl, List.Subset.refl _, trivial⟩
  | regAdd tunnel key =>
    obtain ⟨-, rfl⟩ := ite_some_none_eq_some.mp hs'
    exact .inr (.inl ⟨tunnel, key, rfl, rfl, rfl, trivial⟩)
  | unregDump key =>
    cases hs'
    exact .inr (.inr (.inl ⟨key, rfl, rfl, rfl, trivial⟩))
  | die tunnel =>
    cases hs'
    exact .inl ⟨rfl, rfl, subset_cons_self _ _, trivial⟩
  | notice tunnel key =>
    obtain ⟨-, rfl⟩ := ite_some_none_eq_some.mp hs'
    exact .inr (.inr (.inr ⟨tunnel, key, rfl, rfl, rfl, rfl⟩))

section TableOk

variable {s s' : DumpState} {tunnel key : ℕ}

lemma TableOk.of_same (h : s.TableOk) (htable : s'.mDumpTunnels = s.mDumpTunnels) (hlatest : s'.latest = s.latest)
    (hdead : s.dead ⊆ s'.dead) : s'.TableOk := by
  constructor
  · intro k t hk halive
    rw [hlatest] at hk
    rw [htable]
    exact h.kept k t hk fun hmem => halive (hdead hmem)
  · intro k t hk
    rw [htable] at hk
    rw [hlatest]
    exact h.right k t hk

lemma TableOk.add (h : s.TableOk) (htable : s'.mDumpTunnels = (cleanUp s.dead s.mDumpTunnels).add key tunnel)
    (hlatest : s'.latest = s.latest.add key tunnel) (hdead : s'.dead = s.dead) : s'.TableOk := by
  constructor
  · intro k t hk halive
    rw [hlatest, valueFor_add] at hk
    rw [htable, valueFor_add]
    split_ifs at hk ⊢
    · exact hk
    · rw [hdead] at halive
      exact cleanUp_of_alive (h.kept k t hk halive) halive
  · intro k t hk
    rw [htable, valueFor_add] at hk
    rw [hlatest, valueFor_add]
    split_ifs at hk ⊢
    · exact hk
    · exact h.right k t (cleanUp_eq_some hk)

lemma TableOk.removeItem (h : s.TableOk) (htable : s'.mDumpTunnels = s.mDumpTunnels.removeItem key)
    (hlatest : s'.latest = s.latest.removeItem key) (hdead : s'.dead = s.dead) : s'.TableOk := by
  constructor
  · intro k t hk halive
    rw [hlatest, valueFor_removeItem] at hk
    rw [htable, valueFor_removeItem]
    split_ifs at hk ⊢
    rw [hdead] at halive
    exact h.kept k t hk halive
  · intro k t hk
    rw [htable, valueFor_removeItem] at hk
    rw [hlatest, valueFor_removeItem]
    split_ifs at hk ⊢
    exact h.right k t hk

/-- The key is removed, and what should be under it is another tunnel, which is dead. -/
lemma TableOk.removeDead (h : s.TableOk) (htable : s'.mDumpTunnels = s.mDumpTunnels.removeItem key)
    (hlatest : s'.latest = s.latest) (hdead : s'.dead = s.dead)
    (hgone : ∀ t, s.latest.valueFor key = some t → t ∈ s.dead) : s'.TableOk := by
  constructor
  · intro k t hk halive
    rw [hlatest] at hk
    rw [hdead] at halive
    rw [htable, valueFor_removeItem]
    split_ifs with hkey
    · subst hkey
      exact absurd (hgone t hk) halive
    · exact h.kept k t hk halive
  · intro k t hk
    rw [htable, valueFor_removeItem] at hk
    split_ifs at hk
    rw [hlatest]
    exact h.right k t hk

lemma TableOk.step {act : DumpAct} (h : s.TableOk) (hregular : s.Regular act) (hs' : s.step act = some s') :
    s'.TableOk := by
  obtain ⟨htable, hlatest, hdead, -⟩ | ⟨tunnel, key, htable, hlatest, hdead, -⟩ | ⟨key, htable, hlatest, hdead, -⟩
    | ⟨tunnel, key, rfl, htable, hlatest, hdead⟩ := step_cases hs'
  · exact h.of_same htable hlatest hdead
  · exact h.add htable hlatest hdead
  · exact h.removeItem htable hlatest hdead
  · by_cases hown : s.latest.valueFor key = some tunnel
    · rw [if_pos hown] at hlatest
      exact h.removeItem htable hlatest hdead
    · rw [if_neg hown] at hlatest
      refine h.removeDead htable hlatest hdead fun t ht => ?_
      -- if it were alive it would be in the table, and the notice would be for it
      by_contra halive
      rcases hregular t (h.kept key t ht halive) with rfl | hmem
      · exact hown ht
      · exact halive hmem

end TableOk

/-- **A notice that comes for another tunnel** costs that tunnel its place. -/
lemma TableOk.not_of_not_regular {s s' : DumpState} {act : DumpAct} (h : s.TableOk) (hirregular : ¬ s.Regular act)
    (hs' : s.step act = some s') : ¬ s'.TableOk := by
  obtain ⟨-, -, -, hregular⟩ | ⟨-, -, -, -, -, hregular⟩ | ⟨-, -, -, -, hregular⟩
    | ⟨tunnel, key, rfl, htable, hlatest, hdead⟩ := step_cases hs'
  · exact absurd hregular hirregular
  · exact absurd hregular hirregular
  · exact absurd hregular hirregular
  · intro hok
    simp only [Regular, not_forall, not_or] at hirregular
    obtain ⟨t, ht, hne, halive⟩ := hirregular
    have hold := h.right key t ht
    have hother : s.latest.valueFor key ≠ some tunnel := fun hown => hne (Option.some.inj (hold.symm.trans hown))
    rw [if_neg hother] at hlatest
    have hkept := hok.kept key t (hlatest ▸ hold) (hdead ▸ halive)
    rw [htable, valueFor_removeItem, if_pos rfl] at hkept
    exact absurd hkept.symm (some_ne_none t)

lemma tableOk_start : start.TableOk :=
  ⟨fun _ t h _ => absurd h.symm (some_ne_none t), fun _ t h => absurd h.symm (some_ne_none t)⟩

/-- **The table of dump tunnels.**  All along any interleaving of registrations, unregistrations, deaths and notices the
table has under each key the tunnel registered last, if it is alive and the key was not unregistered, and has no tunnel
that was replaced, unregistered or notified dead, iff no notice comes while another tunnel that is alive is under its
key.  The clean-up removes no tunnel that is alive, from whatever table. -/
theorem dumpTable_right_iff (acts : List DumpAct) {s : DumpState} (hs : run step start acts = some s) :
    (Along step TableOk start acts ↔ StepsMeet step Regular start acts)
      ∧ ∀ dead v key t, v.valueFor key = some t → t ∉ dead → (cleanUp dead v).valueFor key = some t := by
  refine ⟨?_, fun dead v key t hkey halive => cleanUp_of_alive hkey halive⟩
  exact along_iff_stepsMeet (I := TableOk) (fun _ _ _ h hregular hs' => h.step hregular hs') (fun _ h => h)
    (fun _ _ _ h hirregular hs' => h.not_of_not_regular hirregular hs') tableOk_start hs

/-- A tunnel is registered, dies and is replaced; then the notice comes. -/
def lateNotice : List DumpAct :=
  [.regCheck 1 5, .regLink 1 5, .regAdd 1 5, .die 1, .regCheck 2 5, .regLink 2 5, .regAdd 2 5, .notice 1 5]

def noticeInTime : List DumpAct :=
  [.regCheck 1 5, .regLink 1 5, .regAdd 1 5, .die 1, .regCheck 2 5, .regLink 2 5, .notice 1 5, .regAdd 2 5]

theorem dumpTable_right_noticeInTime :
    (run step start noticeInTime).map (fun s => s.mDumpTunnels.entries) = some [(5, 2)]
      ∧ Along step TableOk start noticeInTime :=
  ⟨by decide, (dumpTable_right_iff noticeInTime rfl).1.mpr (by decide)⟩

/-- **The defect**: the notice of the first tunnel's death removes the second, which is alive. -/
theorem late_notice_removes_successor :
    (∃ s, run step start lateNotice = some s ∧ s.latest.valueFor 5 = some 2 ∧ 2 ∉ s.dead
        ∧ s.mDumpTunnels.valueFor 5 = none ∧ ¬ s.TableOk)
      ∧ ¬ StepsMeet step Regular start lateNotice := by
  refine ⟨⟨_, rfl, by decide, by decide, by decide, fun hok => ?_⟩, by decide⟩
  exact absurd (hok.kept 5 2 (by decide) (by decide)).symm (some_ne_none 2)

end DumpState

end Hal
