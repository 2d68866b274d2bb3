import DeviceHal.Core.While
import DeviceHal.Wifi.Tables

/-!
# Cancelling what is left

`wifi_cleanup` cancels the commands that are still in the table.  A command may take its entry out of the table when it
is cancelled, and then the next one has moved up; if the table is as long as before, the entry is left where it is and
the loop goes on behind it.

What `cancel` does to the table may depend on everything that has happened, and is a parameter.

* `Cleaned` — the table in the course of the loop: what was left behind, then what is still to be cancelled.
* **`cleanup_cancels_once`** — the loop ends, and every command was cancelled and released once.
* `cleanup_after_calls` — the tables that calls without clashes leave are of that kind.
* `null_never_cleaned` — with `NULL` in the table the loop would not end.
-/

namespace Hal

open List Function

inductive CancelEffect where
  | leaves
  | removes

/-- `wifi_cleanup` in its loop.  `mRefs` are the references to each command.  Ghosts: the commands cancelled and those
released, in order, and whether a command was used that had been deleted. -/
structure CleanupState where
  cmd : List (Option WifiCommand)
  badCommands : ℕ
  mRefs : WifiCommand → ℤ
  cancelled : List WifiCommand
  released : List WifiCommand
  usedDeleted : Bool

def unregisterCommand (table : List (Option WifiCommand)) (c : WifiCommand) : List (Option WifiCommand) :=
  table.eraseP fun entry => entry = some c

def CancelEffect.apply (table : List (Option WifiCommand)) (c : WifiCommand) : CancelEffect → List (Option WifiCommand)
  | .leaves => table
  | .removes => unregisterCommand table c

namespace CleanupState

def start (table : List WifiCommand) (mRefs : WifiCommand → ℤ) : CleanupState where
  cmd := table.map some
  badCommands := 0
  mRefs := mRefs
  cancelled := []
  released := []
  usedDeleted := false

/-- `info->num_cmd > bad_commands`. -/
def Pending (s : CleanupState) : Prop := s.badCommands < s.cmd.length

instance : DecidablePred Pending := fun _ => inferInstanceAs (Decidable (_ < _))

/-- A round for a command, with the table that its `cancel` has left. -/
def cancelCommand (s : CleanupState) (c : WifiCommand) (table : List (Option WifiCommand)) : CleanupState where
  cmd := table
  badCommands := if s.cmd.length = table.length then s.badCommands + 1 else s.badCommands
  mRefs := update s.mRefs c (s.mRefs c - 1)
  cancelled := s.cancelled ++ [c]
  released := s.released ++ [c]
  usedDeleted := s.usedDeleted || decide (s.mRefs c ≤ 0)

def round (cancel : List WifiCommand → WifiCommand → CancelEffect) (s : CleanupState) : CleanupState :=
  match s.cmd[s.badCommands]? with
  | some (some c) => s.cancelCommand c ((cancel s.cancelled c).apply s.cmd c)
  | _ => s

/-- In the course of the loop over a table: `kept` are the entries that were left behind, `rest` is still to come. -/
structure Cleaned (table : List WifiCommand) (mRefs : WifiCommand → ℤ) (kept rest : List WifiCommand)
    (s : CleanupState) : Prop where
  cmd_eq : s.cmd = (kept ++ rest).map some
  bad_eq : s.badCommands = kept.length
  kept_subset : kept ⊆ s.cancelled
  table_eq : table = s.cancelled ++ rest
  released_eq : s.released = s.cancelled
  refs_eq : ∀ c, s.mRefs c = mRefs c - s.cancelled.count c
  used : s.usedDeleted = false

section Rounds

variable {table kept rest : List WifiCommand} {mRefs : WifiCommand → ℤ} {s : CleanupState} {c : WifiCommand}

lemma cleaned_start (table : List WifiCommand) (mRefs : WifiCommand → ℤ) :
    (start table mRefs).Cleaned table mRefs [] table :=
  ⟨rfl, rfl, nil_subset _, rfl, rfl, fun c => by simp [start], rfl⟩

lemma Cleaned.pending_iff (h : s.Cleaned table mRefs kept rest) : s.Pending ↔ rest ≠ [] := by
  rw [Pending, h.bad_eq, h.cmd_eq, length_map, length_append, ← length_pos_iff]
  omega

section Next

variable (h : s.Cleaned table mRefs kept (c :: rest)) (hnodup : table.Nodup) (hlive : ∀ c ∈ table, 0 < mRefs c)

include h hnodup

lemma Cleaned.notMem : c ∉ s.cancelled := by
  rw [h.table_eq] at hnodup
  intro hmem
  exact (nodup_append.mp hnodup).2.2 c hmem c mem_cons_self rfl

lemma Cleaned.unregister : unregisterCommand s.cmd c = (kept ++ rest).map some := by
  have hkept : ∀ entry ∈ kept.map some, ¬ decide (entry = some c) = true := by
    intro entry hentry
    obtain ⟨c', hc', rfl⟩ := mem_map.mp hentry
    intro heq
    have hsame : c' = c := Option.some.inj (of_decide_eq_true heq)
    exact h.notMem hnodup (h.kept_subset (hsame ▸ hc'))
  rw [unregisterCommand, h.cmd_eq, map_append, eraseP_append_right _ hkept, map_cons,
    eraseP_cons_of_pos (by simp), map_append]

lemma Cleaned.mRefs_eq : s.mRefs c = mRefs c := by
  rw [h.refs_eq, count_eq_zero_of_not_mem (h.notMem hnodup)]
  simp

lemma Cleaned.mRefs_release (c' : WifiCommand) :
    update s.mRefs c (s.mRefs c - 1) c' = mRefs c' - (s.cancelled ++ [c]).count c' := by
  by_cases hc' : c' = c
  · subst hc'
    rw [update_self, h.mRefs_eq hnodup, count_append, count_eq_zero_of_not_mem (h.notMem hnodup)]
    simp
  · rw [update_of_ne hc', h.refs_eq, count_append, count_singleton]
    simp [Ne.symm hc']

include hlive

/-- The next command is cancelled and released, whatever becomes of its entry. -/
lemma Cleaned.cancelCommand {cmd : List (Option WifiCommand)} {kept' : List WifiCommand}
    (hcmd : cmd = (kept' ++ rest).map some) (hbad : (s.cancelCommand c cmd).badCommands = kept'.length)
    (hkept : kept' ⊆ s.cancelled ++ [c]) : (s.cancelCommand c cmd).Cleaned table mRefs kept' rest where
  cmd_eq := hcmd
  bad_eq := hbad
  kept_subset := hkept
  table_eq := by
    rw [h.table_eq]
    simp [CleanupState.cancelCommand]
  released_eq := congrArg (· ++ [c]) h.released_eq
  refs_eq := h.mRefs_release hnodup
  used := by
    have hmem : c ∈ table := by
      rw [h.table_eq]
      exact mem_append_right _ mem_cons_self
    have hpos := hlive c hmem
    simp only [CleanupState.cancelCommand, h.used, h.mRefs_eq hnodup, Bool.false_or, decide_eq_false_iff_not]
    omega

/-- **One round** cancels the next command, which is left behind or not. -/
lemma Cleaned.round (cancel : List WifiCommand → WifiCommand → CancelEffect) :
    ∃ kept', (s.round cancel).Cleaned table mRefs kept' rest := by
  have hentry : s.cmd[s.badCommands]? = some (some c) := by
    rw [h.cmd_eq, h.bad_eq]
    simp
  have hround : s.round cancel = s.cancelCommand c ((cancel s.cancelled c).apply s.cmd c) := by
    rw [CleanupState.round, hentry]
  have hsubset : kept ⊆ s.cancelled ++ [c] := List.Subset.trans h.kept_subset (subset_append_left _ _)
  rw [hround]
  cases cancel s.cancelled c with
  | leaves =>
    refine ⟨kept ++ [c], h.cancelCommand hnodup hlive ?_ ?_ ?_⟩
    · simp [CancelEffect.apply, h.cmd_eq]
    · simp [CleanupState.cancelCommand, CancelEffect.apply, h.bad_eq]
    · exact append_subset.mpr ⟨hsubset, subset_append_right _ _⟩
  | removes =>
    have hremove := h.unregister hnodup
    have hshorter : s.cmd.length ≠ (unregisterCommand s.cmd c).length := by
      rw [hremove, h.cmd_eq]
      simp
    exact ⟨kept, h.cancelCommand hnodup hlive hremove ((if_neg hshorter).trans h.bad_eq) hsubset⟩

end Next

/-- **A round takes one command** from what is left of the table. -/
lemma round_measure (hnodup : table.Nodup) (hlive : ∀ c ∈ table, 0 < mRefs c)
    (cancel : List WifiCommand → WifiCommand → CancelEffect) {s : CleanupState}
    (hs : ∃ kept rest, s.Cleaned table mRefs kept rest) (hpending : s.Pending) :
    (∃ kept rest, (s.round cancel).Cleaned table mRefs kept rest)
      ∧ (s.round cancel).cmd.length - (s.round cancel).badCommands < s.cmd.length - s.badCommands := by
  obtain ⟨kept, rest, hs⟩ := hs
  cases rest with
  | nil => exact absurd rfl (hs.pending_iff.mp hpending)
  | cons c rest =>
    obtain ⟨kept', hs'⟩ := hs.round hnodup hlive cancel
    refine ⟨⟨kept', rest, hs'⟩, ?_⟩
    have hbefore : s.cmd.length - s.badCommands = rest.length + 1 := by
      rw [hs.cmd_eq, hs.bad_eq]
      simp
    have hafter : (s.round cancel).cmd.length - (s.round cancel).badCommands = rest.length := by
      rw [hs'.cmd_eq, hs'.bad_eq]
      simp
    omega

end Rounds

/-- **The loop ends**, and it has cancelled and released the table in order. -/
lemma endsIn_cleaned {table : List WifiCommand} {mRefs : WifiCommand → ℤ} (hnodup : table.Nodup)
    (hlive : ∀ c ∈ table, 0 < mRefs c) (cancel : List WifiCommand → WifiCommand → CancelEffect) :
    ∃ t, EndsIn Pending (round cancel) (start table mRefs) t ∧ t.cancelled = table ∧ t.released = table
      ∧ (∀ c, t.mRefs c = mRefs c - table.count c) ∧ t.usedDeleted = false := by
  obtain ⟨t, hends, ⟨kept, rest, ht⟩, hdone⟩ := exists_endsIn
    (fun s : CleanupState => ∃ kept rest, s.Cleaned table mRefs kept rest) (fun s => s.cmd.length - s.badCommands)
    (fun _ hs hpending => round_measure hnodup hlive cancel hs hpending)
    ⟨[], table, cleaned_start table mRefs⟩
  rw [ht.pending_iff, not_not] at hdone
  have htable : t.cancelled = table := by rw [ht.table_eq, hdone, append_nil]
  exact ⟨t, hends, htable, ht.released_eq.trans htable, fun c => htable ▸ ht.refs_eq c, ht.used⟩

/-- **Every command once.**  Whatever the commands do to their entries when they are cancelled, the loop of
`wifi_cleanup` over a table of different commands that are alive ends; each of them was cancelled once and lost one
reference, and none was used after it had been deleted. -/
theorem cleanup_cancels_once (cancel : List WifiCommand → WifiCommand → CancelEffect) (table : List WifiCommand)
    (mRefs : WifiCommand → ℤ) (hnodup : table.Nodup) (hlive : ∀ c ∈ table, 0 < mRefs c) :
    ∃ t, EndsIn Pending (round cancel) (start table mRefs) t
      ∧ (∀ c, t.cancelled.count c = if c ∈ table then 1 else 0)
      ∧ (∀ c, t.released.count c = if c ∈ table then 1 else 0)
      ∧ (∀ c, t.mRefs c = if c ∈ table then mRefs c - 1 else mRefs c)
      ∧ t.usedDeleted = false := by
  obtain ⟨t, hends, hcancelled, hreleased, hrefs, hused⟩ := endsIn_cleaned hnodup hlive cancel
  have hcount : ∀ c, table.count c = if c ∈ table then 1 else 0 := fun c => hnodup.count
  refine ⟨t, hends, fun c => ?_, fun c => ?_, fun c => ?_, hused⟩
  · rw [hcancelled, hcount]
  · rw [hreleased, hcount]
  · rw [hrefs, hcount]
    split_ifs <;> simp

/-- Three commands, of which the second takes its entry out. -/
theorem cleanup_cancels_once_three :
    ∃ t, EndsIn Pending (round fun done _ => if done.length = 1 then .removes else .leaves)
        (start [⟨0, 7, .rtt⟩, ⟨1, 8, .scan⟩, ⟨2, 9, .ePNO⟩] fun _ => 1) t
      ∧ (∀ c, t.cancelled.count c
          = if c ∈ ([⟨0, 7, .rtt⟩, ⟨1, 8, .scan⟩, ⟨2, 9, .ePNO⟩] : List WifiCommand) then 1 else 0)
      ∧ t.usedDeleted = false := by
  obtain ⟨t, hends, hcancelled, -, -, hused⟩ :=
    cleanup_cancels_once (fun done _ => if done.length = 1 then .removes else .leaves)
      [⟨0, 7, .rtt⟩, ⟨1, 8, .scan⟩, ⟨2, 9, .ePNO⟩] (fun _ => 1) (by decide) (by decide)
  exact ⟨t, hends, hcancelled, hused⟩

/-- The commands in a table that calls have left are different: an entry is under the id of its command. -/
lemma commands_nodup {s : WifiState} (h : s.Inv) : (s.cmd.map CmdInfo.cmd).Nodup := by
  refine h.cmd_nodup.map_on fun e he e' he' hcmd => ?_
  have hid : e.id = e'.id := by rw [h.ids e he, h.ids e' he', hcmd]
  exact congrArg₂ CmdInfo.mk hid hcmd

/-- **After calls without clashes**: nothing that is in the table was released before, and all of it is released once by
the loop, whatever `cancel` does to the table. -/
theorem cleanup_after_calls {acts : List WifiAct} {s : WifiState} (hrun : run WifiState.step .init acts = some s)
    (hmeets : StepsMeet WifiState.step WifiState.NoClash .init acts)
    (cancel : List WifiCommand → WifiCommand → CancelEffect) :
    ∃ t, EndsIn Pending (round cancel)
        (start (s.cmd.map CmdInfo.cmd) fun c => if c ∈ s.released then 0 else 1) t
      ∧ t.released = s.cmd.map CmdInfo.cmd ∧ t.released.Nodup ∧ t.usedDeleted = false := by
  have halong := along_of_stepsMeet (fun _ _ _ => WifiState.step_inv) (fun _ h => h) WifiState.init_inv hmeets
  have hinv : s.Inv := halong.last hrun
  have hlive : ∀ c ∈ s.cmd.map CmdInfo.cmd, 0 < if c ∈ s.released then (0 : ℤ) else 1 := by
    intro c hc
    obtain ⟨e, he, rfl⟩ := mem_map.mp hc
    rw [if_neg (hinv.cmd_live e he)]
    exact Int.one_pos
  obtain ⟨t, hends, -, hreleased, -, hused⟩ := endsIn_cleaned (commands_nodup hinv) hlive cancel
  exact ⟨t, hends, hreleased, hreleased ▸ commands_nodup hinv, hused⟩

/-- A measurement that is over, a list that was refused and two commands that go on. -/
def twoLeft : List WifiAct :=
  [.start .rtt 1 [true, true], .start .bssidHotlist 2 [true, true, true, false], .start .scan 3 [], .rttEvent true,
    .start .rtt 4 [true, true]]

theorem cleanup_after_calls_twoLeft :
    ∃ s t, run WifiState.step .init twoLeft = some s
      ∧ EndsIn Pending (round fun _ _ => .leaves)
        (start (s.cmd.map CmdInfo.cmd) fun c => if c ∈ s.released then 0 else 1) t
      ∧ t.released = s.cmd.map CmdInfo.cmd ∧ t.released.Nodup ∧ t.usedDeleted = false := by
  obtain ⟨s, hrun⟩ : ∃ s, run WifiState.step .init twoLeft = some s := ⟨_, rfl⟩
  obtain ⟨t, hcleaned⟩ := cleanup_after_calls hrun (by decide) fun _ _ => .leaves
  exact ⟨s, t, hrun, hcleaned⟩

/-- An entry that is `NULL` is neither cancelled nor passed. -/
theorem null_never_cleaned {s t : CleanupState} (h : s.cmd[s.badCommands]? = some none)
    (cancel : List WifiCommand → WifiCommand → CancelEffect) : ¬ EndsIn Pending (round cancel) s t := by
  have hround : s.round cancel = s := by rw [round, h]
  refine not_endsIn_of_forall fun n => ?_
  rw [Function.iterate_fixed hround]
  exact (List.getElem?_eq_some_iff.mp h).1

end CleanupState

end Hal
