import Mathlib.Algebra.Order.Ring.Int
import DeviceHal.Core.Bytes
import DeviceHal.Core.Machine

/-!
# Satellites in view

`nmea_reader_parse` collects the satellites of `GSV` sentences in an array and reports it at the end of a
batch of sentences.  A set of sentences is counted in `sv_count`; the last one of a set adds the count to
`num_svs`, and the first one of the next set starts it again.

Modelled are the tokenizer, the `GSV` branch of both modes and the report.  The other branches of the
parser do not touch the satellites.

**The defect.**  `sv_count` is not cleared when it has been added.  If the first sentence of the next set is
missing, its last one adds the old count again: `num_svs` runs ahead of what was written, and past the
array.

* `SvReader.Ok` — every write is inside the array, and every report is of at most as many entries as
  the array has, all of them written since the report before.
* **`sv_reports_ok`** — that holds all along a run in which no set is closed on a count that has already
  been added.
-/

namespace Hal

open List Function

inductive GpsMode where
  | gnss
  | gps

def maxSvs : GpsMode → ℤ
  | .gnss => 64
  | .gps => 32

def asciiBytes (text : String) : List UInt8 := text.toList.map fun c => UInt8.ofNat c.toNat

/-! ## Tokens -/

/-- The fields between commas, where `acc` has been read of the first.  Nothing follows a comma at the
end. -/
def fieldsFrom : List UInt8 → List UInt8 → List (List UInt8)
  | acc, [] => if acc = [] then [] else [acc]
  | acc, c :: cs => if c = 44 then acc :: fieldsFrom [] cs else fieldsFrom (acc ++ [c]) cs

/-- Drops the last bytes if they are as given. -/
def dropTrailing (p : UInt8 → Bool) (l : List UInt8) : List UInt8 :=
  match l.getLast? with
  | some c => if p c then l.dropLast else l
  | none => l

/-- `nmea_tokenizer_init`: without the `$`, the newline and a carriage return before it, and a checksum, at
most `MAX_NMEA_TOKENS` fields. -/
def nmeaTokenizerInit (line : List UInt8) : List (List UInt8) :=
  let l := if line.head? = some 36 then line.tail else line
  let l := if l.getLast? = some 10 then dropTrailing (· = 13) l.dropLast else l
  let l := if 3 ≤ l.length ∧ l[l.length - 3]? = some 42 then l.take (l.length - 3) else l
  (fieldsFrom [] l).take 24

/-- `nmea_tokenizer_get`: the empty token where there is none. -/
def nmeaTokenizerGet (tokens : List (List UInt8)) (index : ℕ) : List UInt8 := tokens.getD index []

/-- The loop of `str2int`; `none` is the jump to `Fail`. -/
def digits : ℤ → List UInt8 → Option ℤ
  | result, [] => some result
  | result, c :: cs =>
    if 48 ≤ c ∧ c ≤ 57 then digits (wrapInt (result * 10 + (c.toNat - 48))) cs else none

def str2int (tok : List UInt8) : ℤ :=
  match tok with
  | 45 :: cs => ((digits 0 cs).map fun n => wrapInt (-n)).getD (-1)
  | cs => (digits 0 cs).getD (-1)

/-! ## Sentences -/

/-- One satellite of a `GSV` sentence; the signal strength is kept as its token. -/
structure SvFields where
  id : ℤ
  elevation : ℤ
  azimuth : ℤ
  snr : List UInt8
deriving DecidableEq

/-- A `GSV` sentence: number of sentences of the set, number of this one, satellites in view. -/
structure GsvSentence where
  num : ℤ
  seq : ℤ
  cnt : ℤ
  svs : List SvFields
deriving DecidableEq

def nmeaMaxSvInfo : ℤ := 4

/-- The sentence id passes the test of the mode's `GSV` branch. -/
def isGsv (mode : GpsMode) (id : List UInt8) : Bool :=
  match mode with
  | .gnss => (id.drop 2).take 3 = asciiBytes "GSV"
  | .gps => id.take 5 = asciiBytes "GPGSV" ∨ id.take 5 = asciiBytes "GLGSV"

/-- The satellite at a place of the sentence; those of BeiDou are numbered from 200. -/
def svFields (tokens : List (List UInt8)) (bds : Bool) (idx : ℕ) : SvFields :=
  let base := 4 * (idx + 1)
  let id := str2int (nmeaTokenizerGet tokens base)
  { id := if bds then wrapInt (id + 200) else id
    elevation := str2int (nmeaTokenizerGet tokens (base + 1))
    azimuth := str2int (nmeaTokenizerGet tokens (base + 2))
    snr := nmeaTokenizerGet tokens (base + 3) }

/-- How many satellites the sentence has. -/
def svNum (seq cnt : ℤ) : ℤ := min (wrapInt (cnt - wrapInt ((seq - 1) * nmeaMaxSvInfo))) nmeaMaxSvInfo

/-- A line that gets to the end of `nmea_reader_parse`, and what the `GSV` branch reads of it, if it is
taken. -/
def parseLine (mode : GpsMode) (line : List UInt8) : Option (Option GsvSentence) :=
  if line.length < 9 then none
  else
    let tokens := nmeaTokenizerInit line
    let id := nmeaTokenizerGet tokens 0
    if id.length < 5 then none
    else if isGsv mode id then
      let seq := str2int (nmeaTokenizerGet tokens 2)
      let cnt := str2int (nmeaTokenizerGet tokens 3)
      let bds := decide (id.take 2 = asciiBytes "BD")
      some (some
        { num := str2int (nmeaTokenizerGet tokens 1)
          seq := seq
          cnt := cnt
          svs := (List.range (svNum seq cnt).toNat).map (svFields tokens bds) })
    else some none

/-! ## The reader -/

/-- An entry of `sv_list`, or `gnss_sv_list`.  `writer` is a ghost: the sentence that wrote it. -/
structure SvEntry where
  fields : SvFields
  writer : Option ℕ
deriving DecidableEq

/-- A report: `num_svs` and that many entries.  `since` is a ghost: the first sentence after the report
before. -/
structure SvReport where
  numSvs : ℤ
  entries : List SvEntry
  since : ℕ
deriving DecidableEq

/-- The satellites of `NmeaReader`, in the array of the mode.  Ghosts: the number of sentences, the first
one since the last report, whether the count has been added to `num_svs` since it was started, the
indices written, and the reports. -/
structure SvReader where
  svCount : ℤ
  numSvs : ℤ
  svList : ℕ → SvEntry
  sentences : ℕ
  since : ℕ
  counted : Bool
  writes : List ℤ
  reports : List SvReport

/-- A sentence, with `gps_nmea_end_tag`; a start with new callbacks. -/
inductive SvAct where
  | sentence (line : List UInt8) (endTag : Bool)
  | setCallback

namespace SvReader

/-- `nmea_reader_init`. -/
def init : SvReader := ⟨0, 0, fun _ => ⟨⟨0, 0, 0, []⟩, none⟩, 0, 0, false, [], []⟩

/-- The satellite numbers that the mode ignores. -/
def ignored (mode : GpsMode) (prn : ℤ) : Bool :=
  match mode with
  | .gnss => prn ≤ 0 ∨ (prn < 65 ∧ 32 < prn) ∨ (96 < prn ∧ prn < 200) ∨ 232 < prn
  | .gps => prn ≤ 0 ∨ (prn < 65 ∧ 32 < prn) ∨ 96 < prn

/-- `nmea_reader_update_sv_status_gps` and `nmea_reader_update_sv_status_gnss`. -/
def updateSvStatus (mode : GpsMode) (r : SvReader) (sv : SvFields) : SvReader :=
  if ignored mode sv.id = true ∨ maxSvs mode ≤ r.svCount then r
  else if maxSvs mode ≤ r.svCount + r.numSvs then r
  else
    { r with
      svList := update r.svList (r.svCount + r.numSvs).toNat ⟨sv, some r.sentences⟩
      svCount := r.svCount + 1
      writes := r.writes ++ [r.svCount + r.numSvs] }

/-- The first sentence of a set starts the count again. -/
def startSet (r : SvReader) (seq : ℤ) : SvReader :=
  if seq = 1 then { r with svCount := 0, counted := false } else r

/-- The last one adds it, or drops everything if there were more satellites than the set has. -/
def closeSet (r : SvReader) (gsv : GsvSentence) : SvReader :=
  if gsv.seq = gsv.num then
    if r.svCount ≤ gsv.cnt then { r with numSvs := r.numSvs + r.svCount, counted := true }
    else { r with svCount := 0, numSvs := 0, counted := false }
  else r

def gsvBranch (mode : GpsMode) (r : SvReader) (gsv : GsvSentence) : SvReader :=
  (gsv.svs.foldl (updateSvStatus mode) (r.startSet gsv.seq)).closeSet gsv

def report (r : SvReader) (endTag : Bool) : SvReader :=
  if r.numSvs ≠ 0 ∧ endTag = true then
    { r with
      svCount := 0
      numSvs := 0
      counted := false
      since := r.sentences + 1
      reports := r.reports ++ [⟨r.numSvs, (List.range r.numSvs.toNat).map r.svList, r.since⟩] }
  else r

/-- `nmea_reader_parse`. -/
def parse (mode : GpsMode) (r : SvReader) (line : List UInt8) (endTag : Bool) : SvReader :=
  match parseLine mode line with
  | none => r
  | some none => r.report endTag
  | some (some gsv) => (r.gsvBranch mode gsv).report endTag

def step (mode : GpsMode) (r : SvReader) : SvAct → Option SvReader
  | .sentence line endTag =>
    let r := r.parse mode line endTag
    some { r with sentences := r.sentences + 1 }
  | .setCallback => some { r with svCount := 0, numSvs := 0, counted := false }

def WrittenSince (since : ℕ) (e : SvEntry) : Prop := ∃ k, e.writer = some k ∧ since ≤ k

structure Ok (mode : GpsMode) (r : SvReader) : Prop where
  writes : ∀ i ∈ r.writes, 0 ≤ i ∧ i < maxSvs mode
  bound : ∀ rep ∈ r.reports, 0 ≤ rep.numSvs ∧ rep.numSvs ≤ maxSvs mode
  fresh : ∀ rep ∈ r.reports, (rep.entries.length : ℤ) = rep.numSvs
    ∧ ∀ e ∈ rep.entries, WrittenSince rep.since e

/-- No set is closed on a count that has been added before: the sentence that closes it is also its first,
or the count has been started again. -/
def Restarted (mode : GpsMode) (r : SvReader) : SvAct → Prop
  | .sentence line _ => ∀ gsv ∈ (parseLine mode line).join, gsv.seq = gsv.num →
      gsv.seq = 1 ∨ r.counted = false
  | .setCallback => True

instance (mode : GpsMode) (r : SvReader) : DecidablePred (Restarted mode r)
  | .sentence line _ => inferInstanceAs (Decidable (∀ gsv ∈ (parseLine mode line).join, _ → _ ∨ _))
  | .setCallback => isTrue trivial

/-! ## What is written -/

/-- The entries that count were written since the last report, and so were those of the current set,
unless its count has been added already. -/
structure Inv (mode : GpsMode) (r : SvReader) : Prop where
  count_nonneg : 0 ≤ r.svCount
  num_nonneg : 0 ≤ r.numSvs
  num_le : r.numSvs ≤ maxSvs mode
  since_le : r.since ≤ r.sentences
  fresh : ∀ i : ℕ, (i : ℤ) < r.numSvs → WrittenSince r.since (r.svList i)
  counting : r.counted = false → r.numSvs + r.svCount ≤ maxSvs mode
    ∧ ∀ i : ℕ, (i : ℤ) < r.numSvs + r.svCount → WrittenSince r.since (r.svList i)
  ok : r.Ok mode

variable {mode : GpsMode} {r : SvReader}

lemma maxSvs_pos (mode : GpsMode) : 0 < maxSvs mode := by
  cases mode <;> decide

lemma init_inv (mode : GpsMode) : Inv mode init := by
  have hpos := maxSvs_pos mode
  refine ⟨le_rfl, le_rfl, hpos.le, le_rfl, fun i hi => ?_, fun _ => ⟨?_, fun i hi => ?_⟩, ?_⟩
  · simp only [init] at hi
    omega
  · simp only [init]
    omega
  · simp only [init] at hi
    omega
  · exact ⟨by simp [init], by simp [init], by simp [init]⟩

lemma Inv.updateSvStatus (h : Inv mode r) (sv : SvFields) : Inv mode (r.updateSvStatus mode sv) := by
  have hcount := h.count_nonneg
  have hnum := h.num_nonneg
  unfold SvReader.updateSvStatus
  split_ifs with hignored hfull
  · exact h
  · exact h
  · have hwritten : ∀ i : ℕ, (i = (r.svCount + r.numSvs).toNat ∨ WrittenSince r.since (r.svList i)) →
        WrittenSince r.since (update r.svList (r.svCount + r.numSvs).toNat
          ⟨sv, some r.sentences⟩ i) := by
      intro i hi
      by_cases heq : i = (r.svCount + r.numSvs).toNat
      · rw [heq, update_self]
        exact ⟨r.sentences, rfl, h.since_le⟩
      · rw [update_of_ne heq]
        exact hi.resolve_left heq
    refine ⟨?_, h.num_nonneg, h.num_le, h.since_le, fun i hi => ?_, fun hc => ⟨?_, fun i hi => ?_⟩, ?_⟩
    · dsimp only
      omega
    · exact hwritten i (.inr (h.fresh i hi))
    · dsimp only
      omega
    · dsimp only at hi
      refine hwritten i ?_
      by_cases hlt : (i : ℤ) < r.numSvs + r.svCount
      · exact .inr ((h.counting hc).2 i hlt)
      · exact .inl (by omega)
    · refine ⟨fun i hi => ?_, h.ok.bound, h.ok.fresh⟩
      rcases mem_append.mp hi with hi | hi
      · exact h.ok.writes i hi
      · rw [mem_singleton.mp hi]
        omega

@[simp] lemma counted_updateSvStatus (sv : SvFields) : (r.updateSvStatus mode sv).counted = r.counted := by
  unfold SvReader.updateSvStatus
  split_ifs <;> rfl

lemma Inv.foldl_update (svs : List SvFields) {r : SvReader} (h : Inv mode r) :
    Inv mode (svs.foldl (SvReader.updateSvStatus mode) r)
      ∧ (svs.foldl (SvReader.updateSvStatus mode) r).counted = r.counted := by
  induction svs generalizing r with
  | nil => exact ⟨h, rfl⟩
  | cons sv svs ih =>
    rcases ih (h.updateSvStatus sv) with ⟨hinv, hcounted⟩
    exact ⟨hinv, hcounted.trans (counted_updateSvStatus sv)⟩

lemma Inv.restart (h : Inv mode r) : Inv mode { r with svCount := 0, counted := false } := by
  refine ⟨le_rfl, h.num_nonneg, h.num_le, h.since_le, h.fresh, fun _ => ⟨?_, fun i hi => ?_⟩,
    h.ok.writes, h.ok.bound, h.ok.fresh⟩
  · simpa using h.num_le
  · exact h.fresh i (by simpa using hi)

lemma Inv.startSet (h : Inv mode r) (seq : ℤ) : Inv mode (r.startSet seq) := by
  unfold SvReader.startSet
  split_ifs
  · exact h.restart
  · exact h

lemma Inv.clear (h : Inv mode r) : Inv mode { r with svCount := 0, numSvs := 0, counted := false } := by
  have hpos := maxSvs_pos mode
  refine ⟨le_rfl, le_rfl, hpos.le, h.since_le, fun i hi => ?_, fun _ => ⟨?_, fun i hi => ?_⟩,
    h.ok.writes, h.ok.bound, h.ok.fresh⟩
  · dsimp only at hi
    omega
  · dsimp only
    omega
  · dsimp only at hi
    omega

lemma Inv.closeSet (h : Inv mode r) {gsv : GsvSentence} (hcounted : gsv.seq = gsv.num → r.counted = false) :
    Inv mode (r.closeSet gsv) := by
  unfold SvReader.closeSet
  split_ifs with hlast hcnt
  · rcases h.counting (hcounted hlast) with ⟨hle, hfresh⟩
    have hcount := h.count_nonneg
    have hnum := h.num_nonneg
    refine ⟨h.count_nonneg, ?_, hle, h.since_le, hfresh, fun hc => absurd hc (by simp),
      h.ok.writes, h.ok.bound, h.ok.fresh⟩
    dsimp only
    omega
  · exact h.clear
  · exact h

lemma Inv.gsvBranch (h : Inv mode r) {gsv : GsvSentence}
    (hrestarted : gsv.seq = gsv.num → gsv.seq = 1 ∨ r.counted = false) : Inv mode (r.gsvBranch mode gsv) := by
  rcases Inv.foldl_update gsv.svs (h.startSet gsv.seq) with ⟨hinv, hcounted⟩
  refine hinv.closeSet fun hlast => hcounted.trans ?_
  unfold SvReader.startSet
  split_ifs with hseq
  · rfl
  · exact (hrestarted hlast).resolve_left hseq

/-- **A report** is of entries that were written since the one before. -/
lemma Inv.report (h : Inv mode r) (endTag : Bool) : (r.report endTag).Ok mode
    ∧ Inv mode { r.report endTag with sentences := (r.report endTag).sentences + 1 } := by
  have hnum := h.num_nonneg
  unfold SvReader.report
  split_ifs with hreport
  · have hok : Ok mode
        { r with
          svCount := 0
          numSvs := 0
          counted := false
          since := r.sentences + 1
          reports := r.reports
            ++ [⟨r.numSvs, (List.range r.numSvs.toNat).map r.svList, r.since⟩] } := by
      refine ⟨h.ok.writes, fun rep hrep => ?_, fun rep hrep => ?_⟩
      · rcases mem_append.mp hrep with hrep | hrep
        · exact h.ok.bound rep hrep
        · rw [mem_singleton.mp hrep]
          exact ⟨h.num_nonneg, h.num_le⟩
      · rcases mem_append.mp hrep with hrep | hrep
        · exact h.ok.fresh rep hrep
        · rw [mem_singleton.mp hrep]
          refine ⟨by simp [max_eq_left hnum], fun e he => ?_⟩
          rcases mem_map.mp he with ⟨i, hi, rfl⟩
          exact h.fresh i (by have := mem_range.mp hi; omega)
    have hpos := maxSvs_pos mode
    refine ⟨hok, le_rfl, le_rfl, hpos.le, le_rfl, fun i hi => ?_, fun _ => ⟨?_, fun i hi => ?_⟩,
      hok.writes, hok.bound, hok.fresh⟩
    · dsimp only at hi
      omega
    · dsimp only
      omega
    · dsimp only at hi
      omega
  · exact ⟨h.ok, h.count_nonneg, h.num_nonneg, h.num_le, h.since_le.trans (Nat.le_succ _), h.fresh,
      h.counting, h.ok.writes, h.ok.bound, h.ok.fresh⟩

/-- **One step.** -/
lemma step_inv (r : SvReader) (act : SvAct) (r' : SvReader) (h : Inv mode r)
    (hrestarted : r.Restarted mode act) (hr' : r.step mode act = some r') : Inv mode r' := by
  cases act with
  | setCallback =>
    cases hr'
    exact h.clear
  | sentence line endTag =>
    simp only [step, parse] at hr'
    cases hr'
    split
    · exact ⟨h.count_nonneg, h.num_nonneg, h.num_le, h.since_le.trans (Nat.le_succ _), h.fresh,
        h.counting, h.ok.writes, h.ok.bound, h.ok.fresh⟩
    · exact (h.report endTag).2
    · next gsv hgsv =>
      have hcond := hrestarted gsv (by rw [hgsv]; rfl)
      exact ((h.gsvBranch hcond).report endTag).2

/-- **Reports are of satellites that were received**, in every state of a run in which the count is
started again before a set is closed. -/
theorem sv_reports_ok (mode : GpsMode) (acts : List SvAct)
    (hacts : StepsMeet (step mode) (Restarted mode) init acts) : Along (step mode) (Ok mode) init acts :=
  along_of_stepsMeet step_inv (fun _ h => h.ok) (init_inv mode) hacts

/-- A set of two sentences and one of another constellation, reported together. -/
def gsvRun : List SvAct :=
  [.sentence (asciiBytes
      "$GPGSV,2,1,05,01,40,083,46,02,17,308,41,12,07,344,39,14,22,228,45*75\r\n") false,
    .sentence (asciiBytes "$GPGSV,2,2,05,25,11,100,30*4F\r\n") false,
    .sentence (asciiBytes "$GLGSV,1,1,01,70,12,200,25*50\r\n") true]

theorem sv_reports_ok_gsvRun :
    ((run (step .gnss) init gsvRun).map fun r =>
        r.reports.map fun rep => (rep.numSvs, rep.entries.map fun e => e.fields.id))
      = some [(6, [1, 2, 12, 14, 25, 70])]
    ∧ Along (step .gnss) (Ok .gnss) init gsvRun :=
  ⟨by decide +kernel, sv_reports_ok .gnss gsvRun (by decide +kernel)⟩

/-- The last sentence of a set of four satellites whose first one is missing, again and again. -/
def lostFirstRun : List SvAct :=
  .sentence (asciiBytes
      "$GPGSV,1,1,04,01,40,083,46,02,17,308,41,12,07,344,39,14,22,228,45*70\r\n") false
    :: List.replicate 15 (.sentence (asciiBytes "$GLGSV,2,2,04*69\r\n") false)
      ++ [.sentence (asciiBytes "$GLGSV,2,2,04*69\r\n") true]

/-- Four satellites were received, and 68 are reported. -/
theorem report_exceeds_array :
    ∃ r, run (step .gnss) init lostFirstRun = some r
      ∧ r.reports.map (fun rep => rep.numSvs) = [68] ∧ r.writes = [0, 1, 2, 3] ∧ ¬ r.Ok .gnss := by
  have hrun : ((run (step .gnss) init lostFirstRun).map fun r =>
      (r.reports.map fun rep => rep.numSvs, r.writes)) = some ([68], [0, 1, 2, 3]) := by
    decide +kernel
  rcases Option.map_eq_some_iff.mp hrun with ⟨r, hr, heq⟩
  rcases Prod.mk.inj heq with ⟨hreports, hwrites⟩
  refine ⟨r, hr, hreports, hwrites, fun hok => ?_⟩
  have hmem : (68 : ℤ) ∈ r.reports.map fun rep => rep.numSvs := hreports ▸ mem_singleton_self 68
  rcases mem_map.mp hmem with ⟨rep, hrep, hnum⟩
  have hbound := (hok.bound rep hrep).2
  rw [hnum] at hbound
  exact absurd hbound (by decide)

end SvReader

end Hal
