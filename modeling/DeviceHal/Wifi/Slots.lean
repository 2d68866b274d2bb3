import Mathlib.Algebra.BigOperators.Group.List.Basic
import Mathlib.Algebra.Order.Ring.Int
import Mathlib.Data.List.Perm.Subperm
import DeviceHal.Wifi.Tables

/-!
# Slots of the WiFi tables

The tables of commands and of event callbacks have a fixed size.  A start call takes slots in both, and whoever
stops the command expects them to be free again: otherwise a caller who starts and stops often enough finds
no slot.

Beside the tables of `Wifi.Tables` a state has the commands that run, those that were stopped, and the
request ids used so far; an id is used once.  A stop call with the id -1 stops all commands of its class, and
`wifi_rtt_range_cancel` the RTT command of the id.

**The defect.**  Both act through a command made for the purpose, and leave the entry of the command they stop
in the table of commands.

* `WifiState.ends`, `WifiState.begins` — the commands that no longer run after a call, and the one that does.
* **`slots_ok_iff`** — only commands that run occupy slots, all along a history, **iff** no call stops a command
  through another one, and every handler of a command that ends is the first under its event.
-/

namespace Hal

open List Option

namespace WifiState

/-- Does the call end the command, if it runs?  For a start call: does it fail to start it? -/
def ends (s : WifiState) (c : WifiCommand) : WifiAct → Bool
  | .start kind id outcomes => decide (c = s.newCommand kind id) && (play kind.start outcomes).2.isSome
  | .stop kind id => s.IsFor kind id c
  | .rttRangeCancel id => c.kind = .rtt ∧ c.id = id
  | .rttEvent completed => completed && (s.handlerOf .rttComplete).map CbInfo.cbArg = some c

/-- The command that runs from the call on. -/
def begins (s : WifiState) : WifiAct → List WifiCommand
  | .start kind id outcomes =>
    if s.cmd.length < tableSize ∧ (play kind.start outcomes).2 = none then [s.newCommand kind id] else []
  | _ => []

end WifiState

def WifiAct.newId : WifiAct → List ℤ
  | .start _ id _ => [id]
  | _ => []

/-- The tables, and as ghosts the commands that run, those that were stopped, and the ids used. -/
structure SlotState where
  tables : WifiState
  running : List WifiCommand
  stopped : List WifiCommand
  ids : List ℤ

namespace SlotState

def init : SlotState := ⟨.init, [], [], []⟩

/-- A call; its id, if it takes one, is new. -/
def step (s : SlotState) (act : WifiAct) : Option SlotState :=
  if ∀ id ∈ act.newId, id ∉ s.ids then
    some
      { tables := s.tables.call act
        running := (s.running.filter fun c => !s.tables.ends c act) ++ s.tables.begins act
        stopped := s.stopped ++ s.running.filter fun c => s.tables.ends c act
        ids := act.newId ++ s.ids }
  else none

/-- Only commands that run occupy slots, none of which was stopped, and no more than they need. -/
structure Ok (s : SlotState) : Prop where
  event_running : ∀ e ∈ s.tables.eventCb, e.cbArg ∈ s.running
  cmd_running : ∀ e ∈ s.tables.cmd, e.cmd ∈ s.running
  disjoint : ∀ c ∈ s.stopped, c ∉ s.running
  cmd_room : s.tables.cmd.length ≤ s.running.length
  event_room : s.tables.eventCb.length ≤ (s.running.map fun c => c.kind.cancel.length).sum

/-- The handlers while the call is under way. -/
def handlers (s : SlotState) (act : WifiAct) : List CbInfo :=
  s.tables.eventCb ++ (s.tables.effect act).registers

/-- The call stops no command through another one. -/
def Direct (s : SlotState) : WifiAct → Prop
  | .stop kind id => id = -1 ∧ kind.standsIn = true → ∀ c ∈ s.running, c.kind ≠ kind
  | .rttRangeCancel id => ∀ c ∈ s.running, c.kind = .rtt → c.id ≠ id
  | _ => True

/-- Each handler of a command that ends is the first under its event. -/
def FirstHandlers (s : SlotState) (act : WifiAct) : Prop :=
  ∀ e ∈ s.handlers act, s.tables.ends e.cbArg act = true →
    (s.handlers act).find? (fun d => d.vendorSubcmd = e.vendorSubcmd) = some e

def Regular (s : SlotState) (act : WifiAct) : Prop := s.Direct act ∧ s.FirstHandlers act

instance (s : SlotState) : DecidablePred s.Direct
  | .start _ _ _ => isTrue trivial
  | .stop kind id =>
    inferInstanceAs (Decidable (id = -1 ∧ kind.standsIn = true → ∀ c ∈ s.running, c.kind ≠ kind))
  | .rttRangeCancel id => inferInstanceAs (Decidable (∀ c ∈ s.running, c.kind = .rtt → c.id ≠ id))
  | .rttEvent _ => isTrue trivial

instance (s : SlotState) : DecidablePred s.Regular := fun act =>
  inferInstanceAs (Decidable (s.Direct act ∧ ∀ e ∈ s.handlers act, _ → _))

open WifiState (begins effect ends IsFor newCommand)

/-- The entry of a command in its table. -/
def entry (c : WifiCommand) : CmdInfo := ⟨c.id, c⟩

/-- What the tables keep to while all calls are regular. -/
structure Inv (s : SlotState) : Prop where
  cmd_eq : s.tables.cmd = s.running.map entry
  ids_nodup : (s.running.map WifiCommand.id).Nodup
  running_used : ∀ c ∈ s.running, c.id ∈ s.ids
  stopped_used : ∀ c ∈ s.stopped, c.id ∈ s.ids ∧ c ∉ s.running
  event_running : ∀ e ∈ s.tables.eventCb, e.cbArg ∈ s.running
  event_nodup : s.tables.eventCb.Nodup
  handled : ∀ e ∈ s.tables.eventCb, e.vendorSubcmd ∈ e.cbArg.kind.cancel

lemma init_inv : init.Inv := by
  constructor <;> simp [init, WifiState.init]

variable {s : SlotState} {act : WifiAct} {e : CbInfo}

lemma Inv.event_room (h : s.Inv) : s.tables.eventCb.length ≤ (s.running.map fun c => c.kind.cancel.length).sum := by
  have hsub : s.tables.eventCb ⊆ s.running.flatMap fun c => c.kind.cancel.map fun event => ⟨event, c⟩ := by
    intro e he
    refine mem_flatMap.mpr ⟨e.cbArg, h.event_running e he, mem_map.mpr ?_⟩
    exact ⟨e.vendorSubcmd, h.handled e he, rfl⟩
  have hlen := (subperm_of_subset h.event_nodup hsub).length_le
  simpa [length_flatMap] using hlen

lemma Inv.ok (h : s.Inv) : s.Ok where
  event_running := h.event_running
  cmd_running e he := by
    rw [h.cmd_eq] at he
    obtain ⟨c, hc, rfl⟩ := mem_map.mp he
    exact hc
  disjoint c hc := (h.stopped_used c hc).2
  cmd_room := by rw [h.cmd_eq, length_map]
  event_room := h.event_room

/-! ## What a call does -/

variable {s' : SlotState}

lemma step_eq_some (hs' : s.step act = some s') :
    (∀ id ∈ act.newId, id ∉ s.ids) ∧ s' =
      { tables := s.tables.apply (s.tables.effect act)
        running := (s.running.filter fun c => !s.tables.ends c act) ++ s.tables.begins act
        stopped := s.stopped ++ s.running.filter fun c => s.tables.ends c act
        ids := act.newId ++ s.ids } := by
  simp only [step] at hs'
  split_ifs at hs' with hnew
  rw [← WifiState.call_eq]
  exact ⟨hnew, (Option.some.inj hs').symm⟩

variable {c : WifiCommand}

/-- The command that begins has the id of the call and does not end with it. -/
lemma mem_begins {s : WifiState} (hc : c ∈ s.begins act) : c.id ∈ act.newId ∧ s.ends c act = false := by
  cases act with
  | start kind id outcomes =>
    simp only [begins] at hc
    split_ifs at hc with hbegin
    · obtain rfl := mem_singleton.mp hc
      simp [WifiAct.newId, newCommand, ends, hbegin.2]
    · exact absurd hc not_mem_nil
  | stop | rttRangeCancel | rttEvent => exact absurd hc not_mem_nil

lemma begins_nodup (s : WifiState) (act : WifiAct) : ((s.begins act).map WifiCommand.id).Nodup := by
  cases act with
  | start kind id outcomes =>
    simp only [begins]
    split_ifs <;> simp
  | stop | rttRangeCancel | rttEvent => exact nodup_nil

/-- Handlers are registered for the command that the call makes, under its id. -/
lemma mem_registers {s : WifiState} (he : e ∈ (s.effect act).registers) :
    e.cbArg.id ∈ act.newId ∧ (s.ends e.cbArg act = false → e.cbArg ∈ s.begins act) := by
  cases act with
  | start kind id outcomes =>
    simp only [effect] at he
    split_ifs at he with hroom
    · cases hplay : play kind.start outcomes with
      | mk registered failed =>
        rw [hplay] at he
        have howner : e.cbArg = s.newCommand kind id := by
          cases failed with
          | none | some => exact (WifiState.mem_handlers he).2
        rw [howner]
        refine ⟨by simp [WifiAct.newId, newCommand], fun hends => ?_⟩
        cases failed with
        | none => simp [begins, hroom, hplay]
        | some undo => simp [ends, hplay] at hends
    · exact absurd he not_mem_nil
  | stop kind id =>
    simp only [effect] at he
    split_ifs at he
    · exact absurd he not_mem_nil
    · cases hget : s.getCmd id <;> simp [hget] at he
  | rttRangeCancel id => exact absurd he not_mem_nil
  | rttEvent completed =>
    simp only [effect] at he
    cases hhandler : s.handlerOf .rttComplete <;> simp only [hhandler] at he
    · exact absurd he not_mem_nil
    · split_ifs at he <;> exact absurd he not_mem_nil

/-! ## The table of commands -/

lemma eraseP_entry {running : List WifiCommand} (hids : (running.map WifiCommand.id).Nodup)
    (hc : c ∈ running) (ends : WifiCommand → Bool) (hends : ∀ d, ends d = true ↔ c = d) :
    (running.map entry).eraseP (fun e => e.id = c.id) = (running.filter fun d => !ends d).map entry := by
  induction running with
  | nil => exact absurd hc not_mem_nil
  | cons a running ih =>
    obtain ⟨hnotMem, hids'⟩ := nodup_cons.mp hids
    by_cases hac : a = c
    · subst hac
      have hrest : running.filter (fun d => !ends d) = running := by
        refine filter_eq_self.mpr fun d hd => ?_
        have hne : ends d ≠ true := fun hend => by
          rw [hends] at hend
          exact hnotMem (hend.symm ▸ mem_map_of_mem hd)
        simpa using hne
      have hself : ends a = true := (hends a).mpr rfl
      simp [entry, hself, hrest]
    · have hmem : c ∈ running := (mem_cons.mp hc).resolve_left fun heq => hac heq.symm
      have hid : a.id ≠ c.id := fun heq => hnotMem (heq ▸ mem_map_of_mem hmem)
      have hkeep : ends a = false := by
        rw [Bool.eq_false_iff, ne_eq, hends]
        exact fun heq => hac heq.symm
      simpa [entry, hid, hkeep] using ih hids' hmem

lemma filter_ends_eq_self (h : ∀ c ∈ s.running, s.tables.ends c act = false) :
    (s.running.filter fun c => !s.tables.ends c act) = s.running := by
  refine filter_eq_self.mpr fun c hc => ?_
  rw [h c hc]
  rfl

variable {id : ℤ}

lemma mem_running_of_getCmd (h : s.Inv) {e : CmdInfo}
    (hget : s.tables.getCmd id = some e) : e.cmd ∈ s.running ∧ e.cmd.id = id := by
  have hmem : e ∈ s.tables.cmd := mem_of_find?_eq_some hget
  have hid : e.id = id := by simpa using find?_some hget
  rw [h.cmd_eq] at hmem
  obtain ⟨c, hc, rfl⟩ := mem_map.mp hmem
  exact ⟨hc, hid⟩

def cmdAfter (s : SlotState) (act : WifiAct) : List CmdInfo :=
  (s.tables.apply (s.tables.effect act)).cmd

def runningAfter (s : SlotState) (act : WifiAct) : List WifiCommand :=
  (s.running.filter fun c => !s.tables.ends c act) ++ s.tables.begins act

lemma cmdAfter_eq {eff : WifiState.Effect} (heff : s.tables.effect act = eff) :
    s.cmdAfter act = eraseKeys CmdInfo.id eff.drops (s.tables.cmd ++ eff.adds) := by
  rw [← heff]
  rfl

lemma runningAfter_eq (h : ∀ c ∈ s.running, s.tables.ends c act = false) :
    s.runningAfter act = s.running ++ s.tables.begins act := by
  rw [runningAfter, filter_ends_eq_self h]

variable {kind : CmdKind}

lemma Inv.cmd_start (h : s.Inv) (hid : id ∉ s.ids) (outcomes : List Bool) :
    s.cmdAfter (.start kind id outcomes) = (s.runningAfter (.start kind id outcomes)).map entry := by
  have hkeep : ∀ c ∈ s.running, s.tables.ends c (.start kind id outcomes) = false := by
    intro c hc
    have hne : c ≠ s.tables.newCommand kind id := by
      rintro rfl
      exact hid (h.running_used _ hc)
    simp [ends, hne]
  rw [runningAfter_eq hkeep]
  by_cases hroom : s.tables.cmd.length < tableSize
  · cases hplay : play kind.start outcomes with
    | mk registered failed =>
      cases failed with
      | none =>
        rw [cmdAfter_eq (by simp only [effect, hroom, if_true, hplay]; rfl), h.cmd_eq]
        simp [begins, hroom, hplay, eraseKeys, entry, newCommand]
      | some undo =>
        -- the entry goes again, and under its id there is no other
        have hother : ∀ e ∈ s.running.map entry, ¬ (fun e : CmdInfo => decide (e.id = id)) e := by
          intro e he
          obtain ⟨c, hc, rfl⟩ := mem_map.mp he
          exact fun hd => hid (of_decide_eq_true hd ▸ h.running_used c hc)
        rw [cmdAfter_eq (by simp only [effect, hroom, if_true, hplay]; rfl), h.cmd_eq]
        simp [begins, hplay, eraseKeys, eraseP_append_right _ hother]
  · rw [cmdAfter_eq (by simp only [effect, hroom, if_false]; rfl), h.cmd_eq]
    simp [begins, hroom, eraseKeys]

lemma Inv.cmd_stop (h : s.Inv) (hdirect : s.Direct (.stop kind id)) :
    s.cmdAfter (.stop kind id) = (s.runningAfter (.stop kind id)).map entry := by
  by_cases hstand : id = -1 ∧ kind.standsIn = true
  · rw [runningAfter_eq fun c hc => by simpa [ends, IsFor, hstand] using hdirect hstand c hc,
      cmdAfter_eq (by simp only [effect, hstand, and_self, if_true]; rfl), h.cmd_eq]
    simp [begins, eraseKeys]
  · cases hget : s.tables.getCmd id with
    | none =>
      rw [runningAfter_eq fun c _ => by simp [ends, IsFor, hstand, hget],
        cmdAfter_eq (by simp only [effect, hstand, if_false, hget]; rfl), h.cmd_eq]
      simp [begins, eraseKeys]
    | some e =>
      obtain ⟨hc, rfl⟩ := mem_running_of_getCmd h hget
      rw [cmdAfter_eq (by simp only [effect, hstand, if_false, hget]; rfl), h.cmd_eq]
      have herase := eraseP_entry h.ids_nodup hc (fun d => s.tables.ends d (.stop kind e.cmd.id))
        fun d => by simp [ends, IsFor, hstand, hget]
      simpa [runningAfter, begins, eraseKeys] using herase

lemma Inv.cmd_rttEvent (h : s.Inv) (completed : Bool) :
    s.cmdAfter (.rttEvent completed) = (s.runningAfter (.rttEvent completed)).map entry := by
  cases hhandler : s.tables.handlerOf .rttComplete with
  | none =>
    rw [runningAfter_eq fun c _ => by simp [ends, hhandler],
      cmdAfter_eq (by simp only [effect, hhandler]; rfl), h.cmd_eq]
    simp [begins, eraseKeys]
  | some e =>
    cases completed with
    | false =>
      rw [runningAfter_eq fun c _ => by simp [ends],
        cmdAfter_eq (by simp only [effect, hhandler]; rfl), h.cmd_eq]
      simp [begins, eraseKeys]
    | true =>
      have hc := h.event_running e (mem_of_find?_eq_some hhandler)
      rw [cmdAfter_eq (by simp only [effect, hhandler, if_true]; rfl), h.cmd_eq]
      have herase := eraseP_entry h.ids_nodup hc (fun d => s.tables.ends d (.rttEvent true))
        fun d => by simp [ends, hhandler]
      simpa [runningAfter, begins, eraseKeys] using herase

/-- **A call that is direct keeps the table of commands to those that run.** -/
lemma Inv.cmd_apply (h : s.Inv) (hnew : ∀ id ∈ act.newId, id ∉ s.ids)
    (hdirect : s.Direct act) : s.cmdAfter act = (s.runningAfter act).map entry := by
  cases act with
  | start kind id outcomes => exact h.cmd_start (hnew id (mem_singleton_self id)) outcomes
  | stop kind id => exact h.cmd_stop hdirect
  | rttRangeCancel id =>
    rw [runningAfter_eq fun c hc => by simpa [ends] using hdirect c hc, cmdAfter_eq rfl, h.cmd_eq]
    simp [begins, effect, eraseKeys]
  | rttEvent completed => exact h.cmd_rttEvent completed

/-! ## The table of callbacks -/

lemma Inv.handlers_nodup (h : s.Inv) (hnew : ∀ id ∈ act.newId, id ∉ s.ids) : (s.handlers act).Nodup := by
  refine nodup_append'.mpr ⟨h.event_nodup, (s.tables.effect_regular act).registers_nodup, ?_⟩
  intro e he he'
  exact hnew _ (mem_registers he').1 (h.running_used _ (h.event_running e he))

/-- What is left was not the first under its event, or its event was not looked up. -/
lemma Inv.mem_eventCb_apply (h : s.Inv) (hnew : ∀ id ∈ act.newId, id ∉ s.ids) :
    e ∈ (s.tables.apply (s.tables.effect act)).eventCb ↔ e ∈ s.handlers act
      ∧ ∀ event ∈ (s.tables.effect act).undoes,
        (s.handlers act).find? (fun d => d.vendorSubcmd = event) ≠ some e :=
  mem_eraseKeys (h.handlers_nodup hnew) (s.tables.effect_regular act).undoes_nodup

lemma Inv.mem_runningAfter (h : s.Inv) (he : e ∈ s.handlers act) (hends : s.tables.ends e.cbArg act = false) :
    e.cbArg ∈ s.runningAfter act := by
  rcases mem_append.mp he with he | he
  · exact mem_append_left _ (mem_filter.mpr ⟨h.event_running e he, by simp [hends]⟩)
  · exact mem_append_right _ ((mem_registers he).2 hends)

lemma ends_of_mem_runningAfter (hc : c ∈ s.runningAfter act) : s.tables.ends c act = false := by
  rcases mem_append.mp hc with hc | hc
  · simpa using (mem_filter.mp hc).2
  · exact (mem_begins hc).2

lemma mem_eventCb_of_handlers (he : e ∈ s.handlers act) (hnone : act.newId = []) : e ∈ s.tables.eventCb := by
  refine (mem_append.mp he).resolve_right fun hregistered => ?_
  have hid := (mem_registers hregistered).1
  rw [hnone] at hid
  exact not_mem_nil hid

lemma Inv.undone_start (h : s.Inv) {outcomes : List Bool}
    (hnew : id ∉ s.ids) (he : e ∈ s.handlers (.start kind id outcomes))
    (hends : s.tables.ends e.cbArg (.start kind id outcomes) = true) :
    e.vendorSubcmd ∈ (s.tables.effect (.start kind id outcomes)).undoes := by
  obtain ⟨howner, hfails⟩ : e.cbArg = s.tables.newCommand kind id
      ∧ (play kind.start outcomes).2.isSome = true := by simpa [ends] using hends
  obtain ⟨undo, hundo⟩ := isSome_iff_exists.mp hfails
  have hregistered : e ∈ (s.tables.effect (.start kind id outcomes)).registers := by
    refine (mem_append.mp he).resolve_left fun hold => hnew ?_
    have hused := h.running_used _ (h.event_running e hold)
    rwa [howner] at hused
  simp only [effect] at hregistered ⊢
  split_ifs at hregistered ⊢ with hroom
  · have hplay := WifiState.played_start kind outcomes
    generalize play kind.start outcomes = result at hplay hundo hregistered
    rcases result with ⟨registered, failed⟩
    obtain rfl : failed = some undo := hundo
    exact hplay.undone undo rfl _ (.inr (WifiState.mem_handlers hregistered).1)
  · exact absurd hregistered not_mem_nil

/-- A complete measurement looks up the only event its command has a handler for. -/
lemma Inv.undone_rttEvent (h : s.Inv) {completed : Bool} (hold : e ∈ s.tables.eventCb)
    (hends : s.tables.ends e.cbArg (.rttEvent completed) = true) :
    e.vendorSubcmd ∈ (s.tables.effect (.rttEvent completed)).undoes := by
  obtain ⟨hcompleted, hfirst⟩ : completed = true
      ∧ (s.tables.handlerOf .rttComplete).map CbInfo.cbArg = some e.cbArg := by
    simpa [ends] using hends
  obtain ⟨d, hd, howner⟩ := map_eq_some_iff.mp hfirst
  have hevent : d.vendorSubcmd = .rttComplete := by simpa using find?_some hd
  have hcancel : e.cbArg.kind.cancel = [.rttComplete] :=
    WifiState.cancel_rtt (howner ▸ hevent ▸ h.handled d (mem_of_find?_eq_some hd))
  have hhandled := h.handled e hold
  rw [hcancel] at hhandled
  simpa [effect, hd, hcompleted] using hhandled

/-- Every handler of a command that ends is under an event that is looked up. -/
lemma Inv.undone (h : s.Inv) (hnew : ∀ id ∈ act.newId, id ∉ s.ids) (hdirect : s.Direct act) (he : e ∈ s.handlers act)
    (hends : s.tables.ends e.cbArg act = true) : e.vendorSubcmd ∈ (s.tables.effect act).undoes := by
  cases act with
  | start kind id outcomes => exact h.undone_start (hnew id (mem_singleton_self id)) he hends
  | stop kind id =>
    have hold := mem_eventCb_of_handlers he rfl
    simp only [ends, IsFor] at hends
    simp only [effect]
    split_ifs at hends ⊢ with hstand
    · exact absurd (of_decide_eq_true hends) (hdirect hstand _ (h.event_running e hold))
    · obtain ⟨d, hd, hcmd⟩ := map_eq_some_iff.mp (of_decide_eq_true hends)
      rw [hd]
      show e.vendorSubcmd ∈ d.cmd.kind.cancel
      rw [hcmd]
      exact h.handled e hold
  | rttRangeCancel id =>
    have hold := mem_eventCb_of_handlers he rfl
    obtain ⟨hkind, hid⟩ : e.cbArg.kind = .rtt ∧ e.cbArg.id = id := by simpa [ends] using hends
    exact absurd hid (hdirect _ (h.event_running e hold) hkind)
  | rttEvent completed => exact h.undone_rttEvent (mem_eventCb_of_handlers he rfl) hends

lemma Inv.event_runningAfter (h : s.Inv) (hnew : ∀ id ∈ act.newId, id ∉ s.ids) (hreg : s.Regular act)
    (he : e ∈ (s.tables.apply (s.tables.effect act)).eventCb) : e.cbArg ∈ s.runningAfter act := by
  obtain ⟨hmem, hleft⟩ := (h.mem_eventCb_apply hnew).mp he
  refine h.mem_runningAfter hmem (Bool.eq_false_iff.mpr fun hends => ?_)
  exact hleft _ (h.undone hnew hreg.1 hmem hends) (hreg.2 e hmem hends)

/-! ## Steps and histories -/

lemma step_inv (h : s.Inv) (hreg : s.Regular act) (hs' : s.step act = some s') : s'.Inv := by
  obtain ⟨hnew, rfl⟩ := step_eq_some hs'
  -- the commands that run afterwards
  have hrunning : ∀ c ∈ s.runningAfter act, c ∈ s.running ∨ c.id ∈ act.newId := by
    intro c hc
    rcases mem_append.mp hc with hc | hc
    · exact .inl (mem_filter.mp hc).1
    · exact .inr (mem_begins hc).1
  refine
    { cmd_eq := h.cmd_apply hnew hreg.1
      ids_nodup := ?_
      running_used := fun c hc => ?_
      stopped_used := fun c hc => ?_
      event_running := fun e he => h.event_runningAfter hnew hreg he
      event_nodup := (h.handlers_nodup hnew).sublist (eraseKeys_sublist _ _)
      handled := fun e he => ?_ }
  · rw [map_append]
    refine nodup_append'.mpr ⟨h.ids_nodup.sublist (filter_sublist.map _), begins_nodup _ _, ?_⟩
    intro id hold hbegin
    obtain ⟨c, hc, rfl⟩ := mem_map.mp hold
    obtain ⟨d, hd, hid⟩ := mem_map.mp hbegin
    exact hnew _ (hid ▸ (mem_begins hd).1) (h.running_used c (mem_filter.mp hc).1)
  · rcases hrunning c hc with hc | hc
    · exact mem_append_right _ (h.running_used c hc)
    · exact mem_append_left _ hc
  · rcases mem_append.mp hc with hstopped | hstops
    · obtain ⟨hused, hnot⟩ := h.stopped_used c hstopped
      refine ⟨mem_append_right _ hused, fun hc' => ?_⟩
      exact (hrunning c hc').elim hnot fun hid => hnew _ hid hused
    · obtain ⟨hc', hends⟩ := mem_filter.mp hstops
      refine ⟨mem_append_right _ (h.running_used c hc'), fun hafter => ?_⟩
      rw [ends_of_mem_runningAfter hafter] at hends
      exact Bool.false_ne_true hends
  · rcases mem_append.mp ((eraseKeys_sublist _ _).mem he) with he | he
    · exact h.handled e he
    · exact (s.tables.effect_regular act).handled e he

lemma Inv.not_ok_of_not_direct (h : s.Inv) (hindirect : ¬ s.Direct act) (hs' : s.step act = some s') : ¬ s'.Ok := by
  obtain ⟨-, rfl⟩ := step_eq_some hs'
  suffices hstays : ∃ c ∈ s.running, s.tables.ends c act = true ∧ s.cmdAfter act = s.tables.cmd by
    rintro hok
    obtain ⟨c, hc, hends, hcmd⟩ := hstays
    have hmem : entry c ∈ s.cmdAfter act := by
      rw [hcmd, h.cmd_eq]
      exact mem_map_of_mem hc
    have hafter : s.tables.ends c act = false := ends_of_mem_runningAfter (hok.cmd_running _ hmem)
    rw [hends] at hafter
    exact Bool.false_ne_true hafter.symm
  cases act with
  | start | rttEvent => exact absurd trivial hindirect
  | stop kind id =>
    simp only [Direct, Classical.not_imp, not_forall, ne_eq, not_not] at hindirect
    obtain ⟨hstand, c, hc, hkind⟩ := hindirect
    refine ⟨c, hc, by simp [ends, IsFor, hstand, hkind], ?_⟩
    rw [cmdAfter_eq (by simp only [effect, hstand, and_self, if_true]; rfl)]
    simp [eraseKeys]
  | rttRangeCancel id =>
    simp only [Direct, Classical.not_imp, not_forall, ne_eq, not_not] at hindirect
    obtain ⟨c, hc, hkind, hid⟩ := hindirect
    refine ⟨c, hc, by simp [ends, hkind, hid], ?_⟩
    rw [cmdAfter_eq rfl]
    simp [effect, eraseKeys]

lemma Inv.not_ok_of_not_first (h : s.Inv)
    (hfirst : ¬ s.FirstHandlers act) (hs' : s.step act = some s') : ¬ s'.Ok := by
  obtain ⟨hnew, rfl⟩ := step_eq_some hs'
  simp only [FirstHandlers, not_forall] at hfirst
  obtain ⟨e, he, hends, hother⟩ := hfirst
  have hstays : e ∈ (s.tables.apply (s.tables.effect act)).eventCb := by
    refine (h.mem_eventCb_apply hnew).mpr ⟨he, fun event _ hfind => hother ?_⟩
    have hevent : e.vendorSubcmd = event := by simpa using find?_some hfind
    rw [hevent]
    exact hfind
  intro hok
  have hafter : s.tables.ends e.cbArg act = false := ends_of_mem_runningAfter (hok.event_running e hstays)
  rw [hends] at hafter
  exact Bool.false_ne_true hafter.symm

/-- **Slots along a history.**  Only commands that run occupy slots, all along the history, iff all its calls
are regular. -/
theorem slots_ok_iff (acts : List WifiAct) (s : SlotState) (hrun : run step init acts = some s) :
    Along step Ok init acts ↔ StepsMeet step Regular init acts := by
  have hbad : ∀ s act s', Inv s → ¬ Regular s act → step s act = some s' → ¬ Ok s' := by
    intro s act s' h hirr hs'
    by_cases hdirect : s.Direct act
    · exact h.not_ok_of_not_first (fun hfirst => hirr ⟨hdirect, hfirst⟩) hs'
    · exact h.not_ok_of_not_direct hdirect hs'
  exact along_iff_stepsMeet (fun _ _ _ h hreg hs' => step_inv h hreg hs') (fun _ h => h.ok) hbad init_inv hrun

/-- Commands of several classes, started and stopped by their ids. -/
def slotsRun : List WifiAct :=
  [.start .scan 1 [], .start .rtt 2 [], .stop .scan 1, .start .fullScanResults 3 [], .start .ePNO 4 [],
    .stop .scan (-1), .rttEvent true, .stop .fullScanResults 3, .stop .ePNO 4]

theorem slots_ok_slotsRun :
    (run step init slotsRun).map (fun s => (s.running, s.stopped.length, s.tables.cmd)) = some ([], 4, [])
      ∧ Along step Ok init slotsRun := by
  refine (and_iff_left_of_imp fun hrun => ?_).mpr (by decide)
  obtain ⟨s, hs, -⟩ := map_eq_some_iff.mp hrun
  exact (slots_ok_iff slotsRun s hs).mpr (by decide)

/-- RTT measurements, one after the other, each cancelled before the next is started. -/
def rttCycles (n : ℕ) : List WifiAct :=
  (List.range n).flatMap fun (i : ℕ) => [.start .rtt i [], .rttRangeCancel i]

/-- **The defect**: after as many cycles as the table has slots it is full of stopped commands, and the next
start is refused although no command runs. -/
theorem rtt_cycles_fill_table :
    (run step init (rttCycles tableSize)).map (fun s => (s.running, s.tables.cmd.length)) = some ([], tableSize)
      ∧ (run step init (rttCycles tableSize ++ [.start .scan 1000 []])).map (fun s => s.running) = some []
      ∧ ∃ s, run step init [.start .scan 1 [], .stop .scan (-1)] = some s
        ∧ s.stopped = [⟨0, 1, .scan⟩] ∧ s.tables.cmd = [⟨1, ⟨0, 1, .scan⟩⟩] ∧ ¬ s.Ok := by
  refine ⟨by decide +kernel, by decide +kernel, _, rfl, rfl, rfl, fun hok => ?_⟩
  exact absurd hok.cmd_room (by decide)

end SlotState

end Hal
