import Mathlib.Data.List.Range
import DeviceHal.Core.Bytes
import DeviceHal.Core.Calls

/-!
# The EPO download

Orbit data are downloaded in pieces of three days.  Each piece is a file of its own, and is appended to
`EPOHAL.DAT` when it has arrived; `gps_epo_file_count` says which piece is next.  A download that fails is
resumed at that piece by the retry part of `thread_epo_file_update`.

The parts of the thread's loop, the retry alarm, the request for a download in `mtk_gps_start` and the
answer of `mnld` share the count and the files without a lock: they are calls (`Accesses`) that interleave.
What the clock and the server say, and how the files can be opened and written, is part of a call.

**The defects.**  A piece is appended before `mtk_gps_epo_server_data_is_changed` looks at it.  One too short
for a satellite record is rejected, but stays in `EPOHAL.DAT`, and the retry appends the piece again
behind it.  A piece that could not be copied, or only in part, counts as downloaded.  And the count is read
again after a transfer, in which `mtk_gps_start` may have set it back.

* `Merge` — the files, the count, and as ghosts the last download of each piece, and what there was at each
  completion.
* `fileUpdate` — a piece is downloaded, appended, and judged; `updatePart`, `retryPart`, `wifiPart`, `startPart`,
  `updateDone` — the calls.
* **`epo_complete`** — a download that is declared complete left the pieces in order and once each.
-/

namespace Hal

open List Option Function Accesses

/-! ## The merged file -/

/-- What there was when a download was declared complete. -/
structure Completion where
  epoHal : Option (List UInt8)
  last : ℕ → List UInt8

/-- `gps_epo_file_count`, `EPOHAL.DAT` and the files of the pieces.  The rest are ghosts: the last successful
download of each piece, and the completions. -/
structure Merge where
  count : ℕ
  epoHal : Option (List UInt8)
  piece : ℕ → Option (List UInt8)
  last : ℕ → List UInt8
  completions : List Completion

/-- How a piece is copied to `EPOHAL.DAT`: one of the files may not open, and each `fwrite` may leave out
bytes; those after the end of the list are complete. -/
inductive Copy where
  | noMergeFile
  | noPieceFile
  | copied (lost : List ℕ)

def Copy.Complete : Copy → Prop
  | .copied lost => ∀ n ∈ lost, n = 0
  | _ => False

instance : DecidablePred Copy.Complete
  | .copied lost => inferInstanceAs (Decidable (∀ n ∈ lost, n = 0))
  | .noMergeFile | .noPieceFile => isFalse id

/-- The pieces that the configured number of days takes. -/
def pieceNumber (days : ℕ) : ℕ := min 10 ((days + 2) / 3)

/-- The pieces `0` to `n - 1`, one after the other. -/
def pieces (last : ℕ → List UInt8) (n : ℕ) : List UInt8 := (List.range n).flatMap last

/-- What the loop of `fread` and `fwrite` with 256 bytes at a time writes. -/
def copyLoop : List ℕ → List UInt8 → List UInt8
  | [], c => c
  | n :: lost, c => (c.take 256).take ((c.take 256).length - n) ++ copyLoop lost (c.drop 256)

namespace Merge

def init : Merge := ⟨0, none, fun _ => none, fun _ => [], []⟩

def setCount (m : Merge) (n : ℕ) : Merge := { m with count := n }

def unlinkHal (m : Merge) : Merge := { m with epoHal := none }

def unlinkPiece (m : Merge) (k : ℕ) : Merge := { m with piece := update m.piece k none }

/-- The files of the first `n` pieces are removed. -/
def unlinkPieces (m : Merge) (n : ℕ) : Merge := { m with piece := fun i => if i < n then none else m.piece i }

/-- The transfer of piece `k` is over. -/
def download (m : Merge) (k : ℕ) (c : List UInt8) : Merge :=
  { m with piece := update m.piece k (some c), last := update m.last k c }

/-- The file of piece `k` is appended; opening the merged file makes one. -/
def copyPiece (m : Merge) (k : ℕ) : Copy → Merge
  | .noMergeFile => m
  | .noPieceFile => { m with epoHal := some (m.epoHal.getD []) }
  | .copied lost => { m with epoHal := some (m.epoHal.getD [] ++ copyLoop lost ((m.piece k).getD [])) }

def complete (m : Merge) : Merge := { m with completions := m.completions ++ [⟨m.epoHal, m.last⟩] }

/-- At each completion the file was the pieces in order, once each, as last downloaded. -/
def Ok (days : ℕ) (m : Merge) : Prop :=
  ∀ c ∈ m.completions, c.epoHal = some (pieces c.last (pieceNumber days))

instance (days : ℕ) (m : Merge) : Decidable (m.Ok days) :=
  inferInstanceAs (Decidable (∀ c ∈ m.completions, c.epoHal = some _))

end Merge

/-! ## The program -/

/-- How a download by `curl_easy_download_epo` ends: without a file, with a file that is removed again, or
with a file that is copied. -/
inductive Download where
  | failed (unlinked : Bool)
  | done (content : List UInt8) (copy : Copy)

structure EpoState where
  merge : Merge
  epoDownloadFailed : Bool
  epoDataUpdated : Bool
  epoDownloadRetry : Bool
  fileRetrying : ℕ
  retryTime : ℕ

/-- `MTK_EPO_ONE_SV_SIZE`. -/
def epoOneSvSize : ℕ := 72

/-- The GPS seconds of a satellite record: three bytes of hours. -/
def gpsSecs (record : List UInt8) : ℕ := ofLeBytes (record.take 4) % 2 ^ 24 * 3600 % 2 ^ 32

namespace EpoState

def init : EpoState := ⟨Merge.init, false, false, true, 50, 0⟩

def Ok (days : ℕ) (s : EpoState) : Prop := s.merge.Ok days

instance (days : ℕ) (s : EpoState) : Decidable (s.Ok days) := inferInstanceAs (Decidable (s.merge.Ok days))

/-! ### Accesses -/

def count : Accesses EpoState ℕ := .read fun s => s.merge.count

def onMerge (f : Merge → Merge) : Accesses EpoState Unit := .write fun s => { s with merge := f s.merge }

def setFailed (b : Bool) : Accesses EpoState Unit := .write fun s => { s with epoDownloadFailed := b }

def setUpdated (b : Bool) : Accesses EpoState Unit := .write fun s => { s with epoDataUpdated := b }

section Program

-- `utc` is `GpsToUtcTime`, which depends on the time zone; nothing is assumed of it
variable (days : ℕ) (utc : ℕ → ℤ)

/-! ### A piece -/

/-- `count_temp` of `mtk_gps_epo_file_update`. -/
def countTemp : ℕ := days / 3 + if days % 3 > 0 then 1 else 0

/-- `mtk_gps_epo_piece_data_start`. -/
def pieceDataStart (c : List UInt8) : Option ℤ :=
  if c.length < epoOneSvSize then none else some (utc (gpsSecs c))

/-- `mtk_gps_epo_piece_data_end`, of the last record. -/
def pieceDataEnd (c : List UInt8) : Option ℤ :=
  if c.length < epoOneSvSize then none
  else some (utc ((gpsSecs (c.drop (c.length - epoOneSvSize)) + 21600) % 2 ^ 32))

/-- `curl_easy_download_epo` of piece `k`, and whether it was `CURLE_OK`. -/
def curlEasyDownloadEpo (k : ℕ) : Download → Accesses EpoState Bool
  | .failed unlinked => do
    if unlinked then onMerge (·.unlinkPiece k)
    return false
  | .done c copy => do
    onMerge (·.download k c)
    if (← count) = 0 then onMerge .unlinkHal
    onMerge (·.copyPiece k copy)
    return true

/-- The time read from the file of a piece, and whether reading it failed.  A file that is not there is no
failure. -/
def pieceTime (time : List UInt8 → Option ℤ) (k : ℕ) : Accesses EpoState (ℤ × Bool) := do
  match ← .read fun s => (s.merge.piece k).map time with
  | none => return (0, false)
  | some (some t) => return (t, false)
  | some none =>
    setFailed true
    return (0, true)

/-- The end of the piece before; without one, the start of the new piece. -/
def endBefore (k : ℕ) (uTimeStart : ℤ) : Accesses EpoState (ℤ × Bool) := do
  if (← count) > 0 then
    let n ← count
    -- `gps_download_epo_file_name` keeps the name if the count has been set back
    pieceTime (pieceDataEnd utc) (if n = 0 then k else n - 1)
  else return (uTimeStart, false)

/-- `mtk_gps_epo_server_data_is_changed`.  A gap of a day to the piece before starts the download again. -/
def serverDataIsChanged (k : ℕ) : Accesses EpoState Bool := do
  let start ← pieceTime (pieceDataStart utc) k
  let stop ← endBefore utc k start.1
  if start.1 - stop.1 ≥ 24 * 60 * 60 then
    let n ← count
    onMerge (·.unlinkPieces (n + 1))
    onMerge .unlinkHal
    onMerge (·.setCount 0)
    return true
  else return start.2 || stop.2

/-- The end of `mtk_gps_epo_file_update`. -/
def complete : Accesses EpoState Unit := do
  onMerge .complete
  onMerge (·.unlinkPieces (countTemp days))
  setUpdated false
  onMerge (·.setCount 0)
  setFailed false

/-- A piece is there: the next one follows, or the download is complete. -/
def advance : Accesses EpoState Unit := do
  let n ← count
  onMerge (·.setCount (n + 1))
  if (← count) < 10 ∧ (← count) < countTemp days then return else complete days

/-- `mtk_gps_epo_file_update`, with `gps_epo_file_name` that of piece `k`. -/
def fileUpdate (k : ℕ) (d : Download) : Accesses EpoState Unit := do
  if ← curlEasyDownloadEpo k d then
    if ← serverDataIsChanged utc k then return else advance days
  else setFailed true

def gpsDownloadEpo : Accesses EpoState Unit := do
  setUpdated true
  onMerge (·.setCount 0)

/-! ### The parts of `thread_epo_file_update` -/

/-- The first part: the next piece of a download that goes on. -/
def updatePart (d : Download) : Accesses EpoState Unit := do
  if ← .read epoDataUpdated then
    setFailed false
    fileUpdate days utc (← count) d
    if ← .read epoDownloadFailed then setUpdated false

/-- The bookkeeping of an attempt that did not get on from piece `n`. -/
def notAdvanced (n : ℕ) (s : EpoState) : EpoState :=
  let s := if s.fileRetrying = n then { s with retryTime := s.retryTime + 1 }
    else { s with fileRetrying := n, retryTime := 0 }
  if s.retryTime < 10 then { s with epoDownloadRetry := false }
  else { s with epoDownloadFailed := false, retryTime := 0, fileRetrying := 50 }

/-- Data older than a day are downloaded from the first piece on; otherwise the piece that failed is next. -/
def again (expired : Bool) (d : Download) : Accesses EpoState Unit := do
  if expired then
    setFailed false
    onMerge (·.setCount 0)
    setUpdated true
    onMerge .unlinkHal
  else fileUpdate days utc (← count) d

/-- `file_retrying` is 50 before the first retry. -/
def firstRetry (s : EpoState) : EpoState :=
  { s with fileRetrying := if s.fileRetrying = 50 then s.merge.count else s.fileRetrying }

/-- What the retry part does when it may. -/
def resume (expired : Bool) (d : Download) : Accesses EpoState Unit := do
  .write firstRetry
  let fileCountTemp ← count
  again days utc expired d
  let n ← count
  if fileCountTemp = n then .write (notAdvanced n)

/-- The second part: `online` says that GPS is started or WiFi is on, and the network connected. -/
def retryPart (online expired : Bool) (d : Download) : Accesses EpoState Unit := do
  if online && (← .read epoDownloadFailed) && (← .read epoDownloadRetry) then resume days utc expired d

/-- `mtk_epo_is_expired`, when it finds the data expired, and the request that follows. -/
def requestExpired : Accesses EpoState Unit := do
  onMerge (·.setCount 0)
  gpsDownloadEpo

/-- The third part: a download triggered by WiFi; `due` says that it is enabled, the network connected, and
the file expired. -/
def wifiPart (due : Bool) : Accesses EpoState Unit := do
  if !(← .read epoDataUpdated) && !(← .read epoDownloadFailed) && due then
    requestExpired
    onMerge .unlinkHal

/-! ### The other threads -/

/-- The request in `mtk_gps_start`: whether EPO is enabled, `EPO.DAT` is there, the data have expired, and a
failed download may be given up for a new one. -/
def startPart (enabled epoFile expired offline : Bool) : Accesses EpoState Unit := do
  if enabled then
    if (← .read fun s => s.merge.epoHal).isNone then
      if !epoFile then gpsDownloadEpo
      else if expired then requestExpired
    else if (offline || !(← .read epoDownloadFailed)) && expired then
      onMerge (·.setCount 0)
      onMerge .unlinkHal
      gpsDownloadEpo

/-- `HAL_CMD_UPDATE_EPO_FILE_DONE`. -/
def updateDone : Accesses EpoState Unit := do
  if !(← .read epoDownloadFailed) && (← count) = 0 then onMerge .unlinkHal

end Program

end EpoState

inductive EpoAct where
  | update (d : Download)
  | retry (online expired : Bool) (d : Download)
  | wifi (due : Bool)
  | alarm
  | start (enabled epoFile expired offline : Bool)
  | updateDone

namespace EpoState

variable (days : ℕ) (utc : ℕ → ℤ)

def code : EpoAct → Accesses EpoState Unit
  | .update d => updatePart days utc d
  | .retry online expired d => retryPart days utc online expired d
  | .wifi due => wifiPart due
  | .alarm => .write fun s => { s with epoDownloadRetry := true }
  | .start enabled epoFile expired offline => startPart enabled epoFile expired offline
  | .updateDone => updateDone

def call (s : EpoState) (a : EpoAct) : Option (EpoState × Accesses EpoState Unit) := some (s, code days utc a)

end EpoState

/-- A piece that arrives is copied as a whole, and one after the first is empty or can be read. -/
def Download.Regular (m : Merge) : Download → Prop
  | .failed _ => True
  | .done c copy => copy.Complete ∧ (m.count = 0 ∨ c = [] ∨ epoOneSvSize ≤ c.length)

instance (m : Merge) : DecidablePred (Download.Regular m)
  | .failed _ => isTrue trivial
  | .done _ _ => inferInstanceAs (Decidable (_ ∧ (_ ∨ _ ∨ _)))

def EpoState.Regular (s : EpoState) : EpoAct → Prop
  | .update d | .retry _ _ d => d.Regular s.merge
  | _ => True

instance (s : EpoState) : DecidablePred s.Regular
  | .update d | .retry _ _ d => inferInstanceAs (Decidable (d.Regular s.merge))
  | .wifi _ | .alarm | .start .. | .updateDone => isTrue trivial

/-! ## The pieces so far -/

/-- Another piece follows the one that makes the count `k`. -/
def MoreAfter (days k : ℕ) : Prop := k < 10 ∧ k < (days + 2) / 3

lemma pieces_zero (last : ℕ → List UInt8) : pieces last 0 = [] := rfl

lemma pieces_succ (last : ℕ → List UInt8) (n : ℕ) : pieces last (n + 1) = pieces last n ++ last n := by
  rw [pieces, range_succ, flatMap_append, flatMap_singleton, pieces]

lemma pieces_update (last : ℕ → List UInt8) (n : ℕ) (c : List UInt8) :
    pieces (update last n c) n = pieces last n := by
  refine flatMap_congr fun i hi => ?_
  exact update_of_ne (mem_range.mp hi).ne c last

lemma copyLoop_of_complete {lost : List ℕ} (h : ∀ n ∈ lost, n = 0) (c : List UInt8) : copyLoop lost c = c := by
  induction lost generalizing c with
  | nil => rfl
  | cons n lost ih =>
    rw [forall_mem_cons] at h
    rw [copyLoop, ih h.2, h.1, Nat.sub_zero, take_length, take_append_drop]

namespace Merge

variable {days : ℕ} {m m' : Merge} {c : List UInt8}

/-- The piece before the next one can be read. -/
def BeforeReads (m : Merge) : Prop :=
  0 < m.count → ∃ c, m.piece (m.count - 1) = some c ∧ epoOneSvSize ≤ c.length

lemma BeforeReads.of_update {x : Option (List UInt8)} (h : m.BeforeReads) (hcount : m'.count = m.count)
    (hpiece : m'.piece = update m.piece m.count x) : m'.BeforeReads := by
  unfold BeforeReads
  rw [hcount, hpiece]
  intro hpos
  rw [update_of_ne (Nat.sub_one_lt hpos.ne').ne]
  exact h hpos

/-- The count stays below the last piece; past the first one the file is the pieces so far, and the one before
can be read. -/
structure Inv (days : ℕ) (m : Merge) : Prop where
  count : m.count = 0 ∨ MoreAfter days m.count
  epoHal : 0 < m.count → m.epoHal = some (pieces m.last m.count)
  before : m.BeforeReads
  ok : m.Ok days

lemma inv_of_count (hcount : m.count = 0) (hok : m.Ok days) : Inv days m :=
  ⟨.inl hcount, fun hpos => absurd hcount hpos.ne', fun hpos => absurd hcount hpos.ne', hok⟩

lemma init_inv (days : ℕ) : Inv days init := inv_of_count rfl fun _ hc => absurd hc not_mem_nil

/-- The next piece has arrived and is copied as a whole. -/
def arrived (m : Merge) (c : List UInt8) : Merge :=
  { m.download m.count c with epoHal := some ((if m.count = 0 then none else m.epoHal).getD [] ++ c) }

lemma Inv.arrived_epoHal (h : Inv days m) (c : List UInt8) :
    (m.arrived c).epoHal = some (pieces (m.arrived c).last (m.count + 1)) := by
  have hlast : pieces (m.arrived c).last (m.count + 1) = pieces m.last m.count ++ c := by
    show pieces (update m.last m.count c) (m.count + 1) = _
    rw [pieces_succ, pieces_update, update_self]
  rw [hlast]
  by_cases hcount : m.count = 0
  · simp [arrived, hcount, pieces_zero]
  · simp [arrived, hcount, h.epoHal (Nat.pos_of_ne_zero hcount)]

/-- A piece that is rejected does no harm if it is the first one or empty. -/
lemma Inv.rejected (h : Inv days m) (hc : m.count = 0 ∨ c = []) : Inv days (m.arrived c) := by
  by_cases hcount : m.count = 0
  · exact inv_of_count hcount h.ok
  obtain rfl := hc.resolve_left hcount
  refine ⟨h.count, fun hpos => ?_, h.before.of_update rfl rfl, h.ok⟩
  show some _ = some (pieces (update m.last m.count []) m.count)
  rw [pieces_update, if_neg hcount, h.epoHal hpos, getD_some, append_nil]

lemma Inv.advance (h : Inv days m) (hread : epoOneSvSize ≤ c.length) (hmore : MoreAfter days (m.count + 1)) :
    Inv days ((m.arrived c).setCount (m.count + 1)) :=
  ⟨.inr hmore, fun _ => h.arrived_epoHal c, fun _ => ⟨c, update_self .., hread⟩, h.ok⟩

/-- The piece that ends a download is the last one, if any day was configured. -/
lemma Inv.count_succ (h : Inv days m) (hlast : ¬ MoreAfter days (m.count + 1)) (hdays : 1 ≤ days) :
    m.count + 1 = pieceNumber days := by
  unfold pieceNumber
  rcases h.count with hcount | hcount
  · unfold MoreAfter at hlast
    omega
  · unfold MoreAfter at hlast hcount
    omega

lemma Inv.complete_ok (h : Inv days m) (hlast : ¬ MoreAfter days (m.count + 1)) (hdays : 1 ≤ days) :
    ((m.arrived c).setCount (m.count + 1)).complete.Ok days := by
  intro x hx
  rcases mem_append.mp hx with hx | hx
  · exact h.ok x hx
  · rw [mem_singleton.mp hx, ← h.count_succ hlast hdays]
    exact h.arrived_epoHal c

end Merge

/-! ## Calls with nobody in between -/

namespace EpoState

variable {days : ℕ} {utc : ℕ → ℤ} {s : EpoState}

@[simp] lemma exec_count : count.exec s = (s.merge.count, s) := (rfl)

@[simp] lemma exec_onMerge (f : Merge → Merge) : (onMerge f).exec s = ((), { s with merge := f s.merge }) := (rfl)

@[simp] lemma exec_setFailed (b : Bool) : (setFailed b).exec s = ((), { s with epoDownloadFailed := b }) := (rfl)

@[simp] lemma exec_setUpdated (b : Bool) : (setUpdated b).exec s = ((), { s with epoDataUpdated := b }) := (rfl)

lemma countTemp_eq : countTemp days = (days + 2) / 3 := by
  unfold countTemp
  split_ifs
  · omega
  · omega

lemma exec_curlEasyDownloadEpo {copy : Copy} (hcopy : copy.Complete) (c : List UInt8) :
    (curlEasyDownloadEpo s.merge.count (.done c copy)).exec s = (true, { s with merge := s.merge.arrived c }) := by
  cases copy with
  | noMergeFile | noPieceFile => exact hcopy.elim
  | copied lost =>
    by_cases hcount : s.merge.count = 0
    all_goals simp [curlEasyDownloadEpo, Merge.download, Merge.unlinkHal, Merge.copyPiece, Merge.arrived, hcount,
      copyLoop_of_complete hcopy]

lemma pieceTime_merge (time : List UInt8 → Option ℤ) (k : ℕ) : ((pieceTime time k).exec s).2.merge = s.merge := by
  unfold pieceTime
  rw [exec_bind, exec_read]
  rcases (s.merge.piece k).map time with _ | _ | t
  all_goals rfl

variable {c : List UInt8}

lemma pieceTime_unread {time : List UInt8 → Option ℤ} {k : ℕ} (hpiece : s.merge.piece k = some c) :
    ((pieceTime time k).exec s).1.2 = (time c).isNone := by
  unfold pieceTime
  rw [exec_bind, exec_read, hpiece, map_some]
  cases time c with
  | none | some t => rfl

lemma endBefore_merge (k : ℕ) (t : ℤ) : ((endBefore utc k t).exec s).2.merge = s.merge := by
  unfold endBefore
  simp only [exec_bind, exec_count, exec_ite]
  split_ifs
  · exact pieceTime_merge ..
  · exact pieceTime_merge ..
  · rfl

lemma pieceDataStart_isNone (c : List UInt8) : (pieceDataStart utc c).isNone = decide (c.length < epoOneSvSize) := by
  unfold pieceDataStart
  split_ifs with hshort
  · simp [hshort]
  · simp [hshort]

lemma endBefore_unread (hbefore : s.merge.BeforeReads) (k : ℕ) (t : ℤ) :
    ((endBefore utc k t).exec s).1.2 = false := by
  unfold endBefore
  simp only [exec_bind, exec_count, exec_ite]
  split_ifs with hpos hzero
  · exact absurd hzero hpos.ne'
  · obtain ⟨b, hb, hlen⟩ := hbefore hpos
    rw [pieceTime_unread hb, pieceDataEnd, if_neg (not_lt.mpr hlen), isNone_some]
  · rfl

/-- The three ways a new piece is judged: the server has newer data, it is rejected, or it is taken. -/
lemma serverDataIsChanged_cases (utc : ℕ → ℤ) {k : ℕ} (hpiece : s.merge.piece k = some c)
    (hbefore : s.merge.BeforeReads) :
    (∃ u, (serverDataIsChanged utc k).exec s = (true, u)
      ∧ u.merge.count = 0 ∧ u.merge.completions = s.merge.completions)
    ∨ (∃ u, (serverDataIsChanged utc k).exec s = (true, u) ∧ u.merge = s.merge ∧ c.length < epoOneSvSize)
    ∨ ∃ u, (serverDataIsChanged utc k).exec s = (false, u) ∧ u.merge = s.merge ∧ epoOneSvSize ≤ c.length := by
  set start := (pieceTime (pieceDataStart utc) k).exec s with hstart
  have hmerge : start.2.merge = s.merge := pieceTime_merge ..
  have hunread : start.1.2 = decide (c.length < epoOneSvSize) :=
    (pieceTime_unread hpiece).trans (pieceDataStart_isNone c)
  set stop := (endBefore utc k start.1.1).exec start.2 with hstop
  have hmerge' : stop.2.merge = s.merge := (endBefore_merge ..).trans hmerge
  have hread : stop.1.2 = false := endBefore_unread (hmerge ▸ hbefore) ..
  simp only [serverDataIsChanged, exec_bind, ← hstart, ← hstop, exec_ite, exec_count, exec_onMerge,
    exec_pure, hunread, hread, Bool.or_false]
  split_ifs with hgap
  · exact .inl ⟨_, rfl, rfl, show stop.2.merge.completions = _ by rw [hmerge']⟩
  · by_cases hshort : c.length < epoOneSvSize
    · exact .inr (.inl ⟨_, by rw [decide_eq_true hshort], hmerge', hshort⟩)
    · exact .inr (.inr ⟨_, by rw [decide_eq_false hshort], hmerge', not_lt.mp hshort⟩)

lemma advance_inv (hdays : 1 ≤ days) {m : Merge} (h : m.Inv days) (hread : epoOneSvSize ≤ c.length)
    (hs : s.merge = m.arrived c) : ((advance days).exec s).2.merge.Inv days := by
  simp only [advance, exec_bind, exec_count, exec_onMerge, exec_ite, exec_pure, countTemp_eq,
    hs]
  split_ifs with hmore
  · exact h.advance hread hmore
  · exact Merge.inv_of_count rfl (h.complete_ok hmore hdays)

variable {d : Download}

/-- **A piece** keeps the invariant. -/
lemma fileUpdate_inv (hdays : 1 ≤ days) (h : s.merge.Inv days) (hd : d.Regular s.merge) :
    ((fileUpdate days utc s.merge.count d).exec s).2.merge.Inv days := by
  cases d with
  | failed unlinked =>
    cases unlinked with
    | false => exact h
    | true => exact ⟨h.count, h.epoHal, h.before.of_update rfl rfl, h.ok⟩
  | done c copy =>
    obtain ⟨hcopy, hc⟩ := hd
    -- the state in which `mtk_gps_epo_server_data_is_changed` is called
    let t : EpoState := { s with merge := s.merge.arrived c }
    have hupdate : (fileUpdate days utc s.merge.count (.done c copy)).exec s =
        if ((serverDataIsChanged utc s.merge.count).exec t).1 then ((), ((serverDataIsChanged utc s.merge.count).exec t).2)
        else (advance days).exec ((serverDataIsChanged utc s.merge.count).exec t).2 := by
      simp only [fileUpdate, exec_bind, exec_curlEasyDownloadEpo hcopy, exec_ite, exec_pure,
        if_true, t]
    rw [hupdate]
    rcases serverDataIsChanged_cases (s := t) (k := s.merge.count) utc (update_self ..) (h.before.of_update rfl rfl)
      with ⟨u, hu, hcount, hcompletions⟩ | ⟨u, hu, hmerge, hshort⟩ | ⟨u, hu, hmerge, hread⟩
    · rw [hu, if_pos rfl]
      exact Merge.inv_of_count hcount fun x hx => h.ok x (by rwa [hcompletions] at hx)
    · rw [hu, if_pos rfl]
      rw [hmerge]
      exact h.rejected (hc.imp_right fun hc => hc.resolve_right (not_le.mpr hshort))
    · rw [hu, if_neg Bool.false_ne_true]
      exact advance_inv hdays h hread hmerge

lemma updatePart_inv (hdays : 1 ≤ days) (h : s.merge.Inv days) (hd : d.Regular s.merge) :
    ((updatePart days utc d).exec s).2.merge.Inv days := by
  simp only [updatePart, exec_bind, exec_read, exec_ite, exec_setFailed, exec_count,
    exec_pure, exec_setUpdated]
  split_ifs
  · exact fileUpdate_inv (s := { s with epoDownloadFailed := false }) hdays h hd
  · exact fileUpdate_inv (s := { s with epoDownloadFailed := false }) hdays h hd
  · exact h

lemma notAdvanced_merge (n : ℕ) (s : EpoState) : (notAdvanced n s).merge = s.merge := by
  simp only [notAdvanced]
  split_ifs <;> rfl

lemma again_inv (utc : ℕ → ℤ) (hdays : 1 ≤ days) (h : s.merge.Inv days) (hd : d.Regular s.merge) (expired : Bool) :
    ((again days utc expired d).exec s).2.merge.Inv days := by
  cases expired with
  | true => exact Merge.inv_of_count rfl h.ok
  | false => exact fileUpdate_inv hdays h hd

lemma resume_inv (hdays : 1 ≤ days) (h : s.merge.Inv days) (hd : d.Regular s.merge) (expired : Bool) :
    ((resume days utc expired d).exec s).2.merge.Inv days := by
  simp only [resume, exec_bind, exec_write, exec_count, exec_ite, exec_pure]
  have hagain := again_inv (s := s.firstRetry) utc hdays h hd expired
  split_ifs
  · rw [notAdvanced_merge]
    exact hagain
  · exact hagain

lemma startPart_inv (h : s.merge.Inv days) (enabled epoFile expired offline : Bool) :
    ((startPart enabled epoFile expired offline).exec s).2.merge.Inv days := by
  simp only [startPart, requestExpired, gpsDownloadEpo, exec_bind, exec_read, exec_ite,
    exec_pure, exec_onMerge, exec_setUpdated]
  split_ifs
  all_goals first | exact h | exact Merge.inv_of_count rfl h.ok

/-- **A call with nobody in between** keeps the invariant. -/
lemma code_inv (hdays : 1 ≤ days) (h : s.merge.Inv days) {a : EpoAct} (ha : s.Regular a) :
    ((code days utc a).exec s).2.merge.Inv days := by
  cases a with
  | update d => exact updatePart_inv hdays h ha
  | retry online expired d =>
    simp only [code, retryPart, exec_bind, exec_read, exec_ite, exec_pure]
    split_ifs
    · exact resume_inv hdays h ha expired
    · exact h
  | wifi due =>
    simp only [code, wifiPart, requestExpired, gpsDownloadEpo, exec_bind, exec_read, exec_ite,
      exec_pure, exec_onMerge, exec_setUpdated]
    split_ifs
    · exact Merge.inv_of_count rfl h.ok
    · exact h
  | alarm => exact h
  | start enabled epoFile expired offline => exact startPart_inv h enabled epoFile expired offline
  | updateDone =>
    simp only [code, updateDone, exec_bind, exec_read, exec_ite, exec_pure,
      exec_count, exec_onMerge, Bool.and_eq_true, decide_eq_true_eq]
    split_ifs with hzero
    · exact Merge.inv_of_count hzero.2 h.ok
    · exact h

variable (days utc)

/-- **A download that is declared complete left the pieces in order, once each**, in every run in which no call
begins while another one is under way and every piece that arrives is regular. -/
theorem epo_complete (hdays : 1 ≤ days) (acts : List (CallAct EpoAct))
    (hacts : StepsMeet (Calls.step (call days utc)) (Calls.Alone Regular) (Calls.start init) acts) :
    Along (Calls.step (call days utc)) (fun s => s.Quiet → s.shared.Ok days) (Calls.start init) acts := by
  refine Calls.along_quiet (I := fun s => s.merge.Inv days) (fun s a s' h ha hs' => ?_) (fun s h => h.ok)
    (Merge.init_inv days) hacts
  cases hs'
  exact code_inv hdays h ha

/-- Two pieces of one record each; the second one fails at first, and is retried.  `mnld` has taken the file. -/
def epoRun : List (CallAct EpoAct) :=
  callAlone 0 3 (.start true false false false)
    ++ callAlone 1 14 (.update (.done (List.replicate 72 1) (.copied [])))
    ++ callAlone 2 7 (.update (.failed true))
    ++ callAlone 3 22 (.retry true false (.done (List.replicate 72 3) (.copied [0])))
    ++ callAlone 4 3 .updateDone

theorem epo_complete_epoRun :
    (run (Calls.step (call 6 fun _ => 0)) (Calls.start init) epoRun).map
        (fun s => s.shared.merge.completions.map Completion.epoHal)
      = some [some (List.replicate 72 1 ++ List.replicate 72 3)]
    ∧ StepsMeet (Calls.step (call 6 fun _ => 0)) (Calls.Alone Regular) (Calls.start init) epoRun
    ∧ Along (Calls.step (call 6 fun _ => 0)) (fun s => s.Quiet → s.shared.Ok 6) (Calls.start init) epoRun := by
  have hacts : StepsMeet (Calls.step (call 6 fun _ => 0)) (Calls.Alone Regular) (Calls.start init) epoRun := by
    decide +kernel
  exact ⟨by decide +kernel, hacts, epo_complete 6 _ (by decide) epoRun hacts⟩

/-- The second piece arrives cut off after a byte, and is retried. -/
def cutOffRun : List (CallAct EpoAct) :=
  callAlone 0 3 (.start true false false false)
    ++ callAlone 1 14 (.update (.done (List.replicate 72 1) (.copied [])))
    ++ callAlone 2 13 (.update (.done [2] (.copied [])))
    ++ callAlone 3 22 (.retry true false (.done (List.replicate 72 3) (.copied [])))

/-- A byte of the first piece is not written. -/
def lostByteRun : List (CallAct EpoAct) :=
  callAlone 0 3 (.start true false false false)
    ++ callAlone 1 14 (.update (.done (List.replicate 72 1) (.copied [1])))
    ++ callAlone 2 20 (.update (.done (List.replicate 72 3) (.copied [])))

/-- `mtk_gps_start` finds the data expired during the transfer of the second piece. -/
def setBackRun : List (CallAct EpoAct) :=
  callAlone 0 3 (.start true false false false)
    ++ callAlone 1 14 (.update (.done (List.replicate 72 1) (.copied [])))
    ++ callAlone 2 3 (.update (.done (List.replicate 72 3) (.copied [])))
    ++ callAlone 3 6 (.start true false true false) ++ List.replicate 11 (.access 2)
    ++ callAlone 4 20 (.update (.done (List.replicate 72 3) (.copied [])))

/-- **The defects**: the byte of the first attempt stays between the pieces; a byte that was not written is missing; and
after the count was set back the second piece is there twice, and the first one not at all. -/
theorem rejected_piece_stays :
    (∃ s ∈ run (Calls.step (call 6 fun _ => 0)) (Calls.start init) cutOffRun, s.Quiet ∧ ¬ s.shared.Ok 6
      ∧ s.shared.merge.epoHal = some (List.replicate 72 1 ++ [2] ++ List.replicate 72 3))
    ∧ (∃ s ∈ run (Calls.step (call 6 fun _ => 0)) (Calls.start init) lostByteRun, s.Quiet ∧ ¬ s.shared.Ok 6
      ∧ s.shared.merge.epoHal = some (List.replicate 71 1 ++ List.replicate 72 3))
    ∧ ∃ s ∈ run (Calls.step (call 6 fun _ => 0)) (Calls.start init) setBackRun, s.Quiet ∧ ¬ s.shared.Ok 6
      ∧ s.shared.merge.epoHal = some (List.replicate 72 3 ++ List.replicate 72 3) := by
  decide +kernel

end EpoState

end Hal
