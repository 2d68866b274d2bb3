import Mathlib.Data.List.Nodup
import Mathlib.Data.Int.Basic
import DeviceHal.Core.Machine

/-!
# The notification light

The notification and the battery service each ask for a light state; `handle_notification_battery_locked`
lets the LEDs show the notification, or the battery if there is no notification.  `blink_led` writes the
files of one LED, and remembers whether the LED is off, blinks or is steadily on in order not to write when
that stays the same.

* `LedState.drive` — what `blink_led` does to an LED, as a function of what the LED is to show.
* **`leds_show_iff`** — the LEDs show the effective state all along a run iff no call with a notification
  changes the level of an LED that stays on, or the times of one that goes on blinking.
-/

namespace Hal

inductive Led where
  | red
  | green
  | blue
deriving DecidableEq

structure LightBuild where
  hasGreen : Bool
  hasBlue : Bool

/-- The LEDs of the build, in the order in which they are driven. -/
def LightBuild.leds (b : LightBuild) : List Led :=
  [.red] ++ (if b.hasGreen then [.green] else []) ++ (if b.hasBlue then [.blue] else [])

lemma LightBuild.leds_nodup (b : LightBuild) : b.leds.Nodup := by
  rcases b with ⟨_ | _, _ | _⟩ <;> decide

/-- `LIGHT_FLASH_NONE`, `LIGHT_FLASH_TIMED` and any other mode. -/
inductive FlashMode where
  | none
  | timed
  | other
deriving DecidableEq

/-- `light_state_t`, less `brightnessMode`. -/
structure LightState where
  color : BitVec 32
  flashMode : FlashMode
  flashOnMS : ℤ
  flashOffMS : ℤ

namespace LightState

def dark : LightState := ⟨0, .none, 0, 0⟩

/-- `color & COLOR_MASK`. -/
def isLit (state : LightState) : Bool := state.color &&& 0x00ffffff#32 ≠ 0

def level (state : LightState) : Led → ℕ
  | .red => ((state.color >>> 16) &&& 0xff#32).toNat
  | .green => ((state.color >>> 8) &&& 0xff#32).toNat
  | .blue => (state.color &&& 0xff#32).toNat

end LightState

/-! ## One LED -/

/-- `redStatus`, `greenStatus`, `blueStatus`. -/
inductive LedStatus where
  | off
  | blink
  | noBlink
deriving DecidableEq

inductive Trigger where
  | timer
  | none

/-- What was last written to each file of an LED, if anything. -/
structure LedFiles where
  brightness : Option ℤ
  delayOff : Option ℤ
  delayOn : Option ℤ
  trigger : Option Trigger

structure LedState where
  status : LedStatus
  files : LedFiles

def LedState.init : LedState := ⟨.off, ⟨none, none, none, none⟩⟩

def retries : ℕ := 10

/-- `blink_led` on an LED of the build: the return value and the LED.  `missing` is how many times in a row
`access` does not find the files of the delays. -/
def blinkLed (led : LedState) (level onMS offMS : ℤ) (missing : ℕ) : ℤ × LedState :=
  let curStatus : LedStatus :=
    if level = 0 then .off else if onMS > 0 ∧ offMS > 0 then .blink else .noBlink
  if led.status = curStatus then (-1, led)
  else
    match curStatus with
    | .off => (0, ⟨curStatus, { led.files with brightness := some 0 }⟩)
    | .blink =>
      let files := { led.files with trigger := some .timer }
      if missing < retries then
        (0, ⟨curStatus, { files with delayOff := some offMS, delayOn := some onMS }⟩)
      else (-2, ⟨led.status, files⟩)
    | .noBlink =>
      (0, ⟨curStatus, { led.files with trigger := some .none, brightness := some level }⟩)

/-! ## What an LED is to show -/

inductive LedShow where
  | off
  | blink (onMS offMS : ℤ)
  | steady (level : ℤ)
deriving DecidableEq

/-- What the arguments of `blink_led` ask for. -/
def LedShow.ofArgs (level onMS offMS : ℤ) : LedShow :=
  if level = 0 then .off else if onMS > 0 ∧ offMS > 0 then .blink onMS offMS else .steady level

def LightState.shows (state : LightState) (led : Led) : LedShow :=
  if state.level led = 0 then .off
  else if state.flashMode = .timed ∧ state.flashOnMS > 0 ∧ state.flashOffMS > 0 then
    .blink state.flashOnMS state.flashOffMS
  else .steady (state.level led)

namespace LedShow

def status : LedShow → LedStatus
  | .off => .off
  | .blink _ _ => .blink
  | .steady _ => .noBlink

/-- The last values written make the LED show it.  An LED that was never written is dark. -/
def ShownBy : LedShow → LedFiles → Prop
  | .off, files => files.brightness.getD 0 = 0
  | .blink onMS offMS, files =>
    files.trigger = some .timer ∧ files.delayOn = some onMS ∧ files.delayOff = some offMS
  | .steady level, files => files.trigger = some .none ∧ files.brightness = some level

/-- The files after `blink_led` has written them. -/
def write : LedShow → LedFiles → LedFiles
  | .off, files => { files with brightness := some 0 }
  | .blink onMS offMS, files =>
    { files with trigger := some .timer, delayOff := some offMS, delayOn := some onMS }
  | .steady level, files => { files with trigger := some .none, brightness := some level }

lemma shownBy_write (sh : LedShow) (files : LedFiles) : sh.ShownBy (sh.write files) := by
  cases sh with
  | off => rfl
  | blink onMS offMS => exact ⟨rfl, rfl, rfl⟩
  | steady level => exact ⟨rfl, rfl⟩

lemma eq_off {sh : LedShow} (h : sh.status = .off) : sh = .off := by
  cases sh <;> simp_all [status]

lemma eq_of_shownBy {sh sh' : LedShow} {files : LedFiles} (hstatus : sh.status = sh'.status)
    (h : sh.ShownBy files) (h' : sh'.ShownBy files) : sh = sh' := by
  cases sh <;> cases sh' <;> simp only [status, reduceCtorEq] at hstatus
  · rfl
  · obtain ⟨-, hon, hoff⟩ := h
    obtain ⟨-, hon', hoff'⟩ := h'
    rw [Option.some.inj (hon.symm.trans hon'), Option.some.inj (hoff.symm.trans hoff')]
  · rw [Option.some.inj (h.2.symm.trans h'.2)]

end LedShow

/-- What `blink_led` does when the files of the delays appear in time: it writes unless the LED is already
in the same status. -/
def LedState.drive (led : LedState) (sh : LedShow) : LedState :=
  if led.status = sh.status then led else ⟨sh.status, sh.write led.files⟩

@[simp] lemma LedState.drive_status (led : LedState) (sh : LedShow) : (led.drive sh).status = sh.status := by
  unfold drive
  split_ifs with h
  · exact h
  · rfl

/-- Driving gets an LED to show what it should, unless the write is suppressed. -/
lemma LedState.shownBy_drive_iff (led : LedState) (sh : LedShow) :
    sh.ShownBy (led.drive sh).files ↔ (led.status = sh.status → sh.ShownBy led.files) := by
  unfold drive
  split_ifs with h
  · simp [h]
  · simp [h, sh.shownBy_write]

lemma blinkLed_eq_drive (led : LedState) (level onMS offMS : ℤ) {missing : ℕ} (hmissing : missing < retries) :
    (blinkLed led level onMS offMS missing).2 = led.drive (.ofArgs level onMS offMS) := by
  simp only [blinkLed, LedState.drive, LedShow.ofArgs, hmissing, if_true]
  split_ifs <;> first | rfl | contradiction

/-! ## The two services -/

structure LightsState where
  battery : LightState
  notification : LightState
  led : Led → LedState

/-- A call of a service; `missing` as for `blink_led`, by LED. -/
inductive LightsAct where
  | setLightBattery (state : LightState) (missing : Led → ℕ)
  | setLightNotifications (state : LightState) (missing : Led → ℕ)

def LightsAct.missing : LightsAct → Led → ℕ
  | .setLightBattery _ missing => missing
  | .setLightNotifications _ missing => missing

namespace LightsState

def init : LightsState := ⟨.dark, .dark, fun _ => .init⟩

/-- The part of `set_speaker_light_locked` for one LED. -/
def setLed (s : LightsState) (state : LightState) (missing : Led → ℕ) (l : Led) : LightsState :=
  let onMS := if state.flashMode = .timed then state.flashOnMS else 0
  let offMS := if state.flashMode = .timed then state.flashOffMS else 0
  let after :=
    if state.level l ≠ 0 then blinkLed (s.led l) (state.level l) onMS offMS (missing l)
    else blinkLed (s.led l) 0 0 0 (missing l)
  { s with led := Function.update s.led l after.2 }

/-- `set_speaker_light_locked`. -/
def setSpeakerLight (b : LightBuild) (s : LightsState) (state : LightState) (missing : Led → ℕ) : LightsState :=
  b.leds.foldl (fun s l => s.setLed state missing l) s

/-- `handle_notification_battery_locked`. -/
def handleNotificationBattery (b : LightBuild) (s : LightsState) (missing : Led → ℕ) : LightsState :=
  if s.notification.isLit then s.setSpeakerLight b s.notification missing
  else (s.setSpeakerLight b s.notification missing).setSpeakerLight b s.battery missing

/-- The assignment that a call begins with. -/
def assign (s : LightsState) : LightsAct → LightsState
  | .setLightBattery state _ => { s with battery := state }
  | .setLightNotifications state _ => { s with notification := state }

/-- `set_light_battery`, `set_light_notifications`.  In the runs considered all accesses to files succeed,
those to the delays within `RETRIES`. -/
def step (b : LightBuild) (s : LightsState) (act : LightsAct) : Option LightsState :=
  if ∀ l ∈ b.leds, act.missing l < retries then
    some ((s.assign act).handleNotificationBattery b act.missing)
  else none

def effective (s : LightsState) : LightState := if s.notification.isLit then s.notification else s.battery

def Ok (b : LightBuild) (s : LightsState) : Prop :=
  ∀ l ∈ b.leds, (s.effective.shows l).ShownBy (s.led l).files

/-- With a notification, no LED that stays on or goes on blinking is to show something else. -/
def Regular (b : LightBuild) (s : LightsState) (act : LightsAct) : Prop :=
  (s.assign act).notification.isLit → ∀ l ∈ b.leds,
    (s.effective.shows l).status = ((s.assign act).effective.shows l).status →
      s.effective.shows l = (s.assign act).effective.shows l

instance (b : LightBuild) (s : LightsState) : DecidablePred (Regular b s) := fun act =>
  inferInstanceAs (Decidable ((s.assign act).notification.isLit → ∀ l ∈ b.leds, _ → _))

/-! ## What a call does -/

/-- What the arguments of `blink_led` ask for is what the light state asks of the LED. -/
lemma shows_eq_ofArgs (state : LightState) (l : Led) :
    state.shows l
      = if state.level l ≠ 0 then
          .ofArgs (state.level l) (if state.flashMode = .timed then state.flashOnMS else 0)
            (if state.flashMode = .timed then state.flashOffMS else 0)
        else .ofArgs 0 0 0 := by
  by_cases hlevel : state.level l = 0
  · simp [LightState.shows, LedShow.ofArgs, hlevel]
  · by_cases hflash : state.flashMode = .timed <;>
      simp [LightState.shows, LedShow.ofArgs, hlevel, hflash]

variable {missing : Led → ℕ}

lemma setLed_eq (s : LightsState) (state : LightState) {l : Led} (hmissing : missing l < retries) :
    s.setLed state missing l
      = { s with led := Function.update s.led l ((s.led l).drive (state.shows l)) } := by
  rw [shows_eq_ofArgs]
  simp only [setLed]
  split_ifs <;> rw [blinkLed_eq_drive _ _ _ _ hmissing]

lemma foldl_setLed (state : LightState) :
    ∀ {ls : List Led}, ls.Nodup → (∀ l ∈ ls, missing l < retries) → ∀ s : LightsState,
      ls.foldl (fun s l => s.setLed state missing l) s
        = { s with led := fun l => if l ∈ ls then (s.led l).drive (state.shows l) else s.led l }
  | [], _, _, s => by simp
  | l :: ls, hnodup, hmissing, s => by
    obtain ⟨hnotMem, hnodup'⟩ := List.nodup_cons.mp hnodup
    rw [List.foldl_cons, foldl_setLed state hnodup' (fun l hl => hmissing l (List.mem_cons_of_mem _ hl)),
      setLed_eq s state (hmissing l List.mem_cons_self)]
    congr 1
    funext l'
    by_cases heq : l' = l
    · subst heq
      simp [hnotMem]
    · simp [heq]

/-- **A light state drives every LED of the build.** -/
lemma setSpeakerLight_eq (b : LightBuild) (s : LightsState) (state : LightState)
    (hmissing : ∀ l ∈ b.leds, missing l < retries) :
    s.setSpeakerLight b state missing
      = { s with led := fun l => if l ∈ b.leds then (s.led l).drive (state.shows l) else s.led l } :=
  foldl_setLed state b.leds_nodup hmissing s

lemma level_of_not_isLit {state : LightState} (h : state.isLit = false) (l : Led) : state.level l = 0 := by
  have hmask : state.color &&& 0x00ffffff#32 = 0 := by simpa [LightState.isLit] using h
  have hbyte : ∀ n : ℕ, (0x00ffffff#32 >>> n) &&& 0xff#32 = 0xff#32 →
      (state.color >>> n) &&& 0xff#32 = 0 := by
    intro n hn
    calc (state.color >>> n) &&& 0xff#32
        = (state.color >>> n) &&& ((0x00ffffff#32 >>> n) &&& 0xff#32) := by rw [hn]
      _ = ((state.color &&& 0x00ffffff#32) >>> n) &&& 0xff#32 := by
          rw [BitVec.ushiftRight_and_distrib, BitVec.and_assoc]
      _ = 0 := by rw [hmask]; simp
  cases l with
  | red => simp [LightState.level, hbyte 16 (by decide)]
  | green => simp [LightState.level, hbyte 8 (by decide)]
  | blue =>
    have hblue := hbyte 0 (by decide)
    rw [BitVec.ushiftRight_zero] at hblue
    simp [LightState.level, hblue]

variable {b : LightBuild} {s s' : LightsState} {act : LightsAct}

/-- **What a call does**: an LED is driven to what it is to show, by way of off if there is no
notification. -/
lemma step_led (hs' : step b s act = some s') {l : Led} (hl : l ∈ b.leds) :
    s'.effective = (s.assign act).effective ∧ s'.led l =
      if (s.assign act).notification.isLit then (s.led l).drive (s'.effective.shows l)
      else ((s.led l).drive .off).drive (s'.effective.shows l) := by
  obtain ⟨hmissing, rfl⟩ := Option.ite_some_none_eq_some.mp hs'
  have hled : (s.assign act).led = s.led := by cases act <;> rfl
  simp only [handleNotificationBattery, setSpeakerLight_eq b _ _ hmissing]
  cases hlit : (s.assign act).notification.isLit with
  | true => simp [effective, hlit, hled, hl]
  | false =>
    have hoff : (s.assign act).notification.shows l = .off := by
      simp [LightState.shows, level_of_not_isLit hlit]
    simp [effective, hlit, hled, hl, hoff]

/-! ## Runs -/

/-- Each LED shows the effective state and is known to be in the status of it. -/
def Inv (b : LightBuild) (s : LightsState) : Prop :=
  ∀ l ∈ b.leds, (s.led l).status = (s.effective.shows l).status
    ∧ (s.effective.shows l).ShownBy (s.led l).files

lemma init_inv (b : LightBuild) : Inv b init := by
  intro l _
  cases l <;> exact ⟨rfl, rfl⟩

/-- **One call keeps the LEDs right iff it is regular.** -/
lemma step_ok_iff (h : Inv b s) (hs' : step b s act = some s') : Ok b s' ↔ Regular b s act := by
  have hled : ∀ l ∈ b.leds, ((s'.effective.shows l).ShownBy (s'.led l).files
      ↔ ((s.assign act).notification.isLit → (s.effective.shows l).status
        = ((s.assign act).effective.shows l).status →
          s.effective.shows l = (s.assign act).effective.shows l)) := by
    intro l hl
    obtain ⟨heffective, hafter⟩ := step_led hs' hl
    obtain ⟨hstatus, hshown⟩ := h l hl
    rw [hafter, heffective]
    cases hlit : (s.assign act).notification.isLit with
    | true =>
      rw [if_pos rfl, LedState.shownBy_drive_iff, hstatus]
      simp only [forall_const]
      refine forall_congr' fun hsame => ⟨LedShow.eq_of_shownBy hsame hshown, ?_⟩
      rintro heq
      exact heq ▸ hshown
    | false =>
      -- the LED is switched off first, after which nothing is suppressed
      rw [if_neg (by simp), LedState.shownBy_drive_iff, LedState.drive_status]
      refine iff_of_true (fun hoff => ?_) (by simp)
      rw [LedShow.eq_off hoff.symm, LedState.shownBy_drive_iff, hstatus]
      exact fun hwasOff => LedShow.eq_off hwasOff ▸ hshown
  constructor
  · intro hok hlit l hl
    exact (hled l hl).mp (hok l hl) hlit
  · intro hreg l hl
    exact (hled l hl).mpr fun hlit => hreg hlit l hl

lemma step_inv (h : Inv b s) (hreg : Regular b s act) (hs' : step b s act = some s') : Inv b s' := by
  intro l hl
  refine ⟨?_, (step_ok_iff h hs').mpr hreg l hl⟩
  rw [(step_led hs' hl).2]
  split_ifs <;> rw [LedState.drive_status]

/-- **The LEDs show the effective state all along a run iff all its calls are regular.** -/
theorem leds_show_iff (b : LightBuild) (acts : List LightsAct) (s : LightsState)
    (hrun : run (step b) init acts = some s) :
    Along (step b) (Ok b) init acts ↔ StepsMeet (step b) (Regular b) init acts :=
  along_iff_stepsMeet (fun _ _ _ h hreg hs' => step_inv h hreg hs') (fun _ h l hl => (h l hl).2)
    (fun _ _ _ h hirr hs' hok => hirr ((step_ok_iff h hs').mp hok)) (init_inv b) hrun

def present : Led → ℕ := fun _ => 0

/-- A low battery blinks red, a green notification goes over it and away again. -/
def lightsRun : List LightsAct :=
  [.setLightBattery ⟨0xffff0000#32, .timed, 500, 500⟩ present,
    .setLightNotifications ⟨0xff00ff00#32, .none, 0, 0⟩ present,
    .setLightNotifications .dark present, .setLightBattery ⟨0xffff0000#32, .timed, 250, 750⟩ present]

theorem leds_show_lightsRun :
    (run (step ⟨true, false⟩) init lightsRun).map (fun s => (s.led .red).files.delayOn) = some (some 250)
      ∧ Along (step ⟨true, false⟩) (Ok ⟨true, false⟩) init lightsRun := by
  refine (and_iff_left_of_imp fun hrun => ?_).mpr (by decide)
  obtain ⟨s, hs, -⟩ := Option.map_eq_some_iff.mp hrun
  exact (leds_show_iff _ lightsRun s hs).mpr (by decide)

/-- **The defect**: a notification in dark red that follows one in bright red leaves the LED bright, and one
that blinks slowly leaves it blinking fast. -/
theorem second_notification_not_shown :
    (∃ s, run (step ⟨false, false⟩) init
        [.setLightNotifications ⟨0xffff0000#32, .none, 0, 0⟩ present,
          .setLightNotifications ⟨0xff400000#32, .none, 0, 0⟩ present] = some s
      ∧ s.effective.shows .red = .steady 64 ∧ (s.led .red).files.brightness = some 255
      ∧ ¬ Ok ⟨false, false⟩ s)
    ∧ ∃ s, run (step ⟨false, false⟩) init
        [.setLightNotifications ⟨0xffff0000#32, .timed, 100, 100⟩ present,
          .setLightNotifications ⟨0xffff0000#32, .timed, 900, 900⟩ present] = some s
      ∧ s.effective.shows .red = .blink 900 900 ∧ (s.led .red).files.delayOn = some 100
      ∧ ¬ Ok ⟨false, false⟩ s := by
  refine ⟨⟨_, rfl, by decide, by decide, ?_⟩, ⟨_, rfl, by decide, by decide, ?_⟩⟩
  · intro hok
    exact absurd (hok .red (by decide)).2 (by decide)
  · intro hok
    exact absurd (hok .red (by decide)).2 (by decide)

end LightsState

end Hal
