import DeviceHal.Gps.SvStatus

/-!
# Constellations

In GNSS mode an entry of `gnss_sv_list` also has a constellation, chosen by the number of the satellite, and a flag for
the satellites that the position was computed from.  The latter come from `GSA` sentences, by way of
`sv_used_in_fix`.  The numbers are 1 to 32 for GPS, 65 to 96 for GLONASS, and 201 to 232 for BeiDou, whose own numbers
are moved by 200.

`GnssReader` puts these fields beside `SvReader`, which has the counters and the rest of the array.

**The defect.**  Numbers are ignored up to 199, and BeiDou starts behind 200.  Satellite 200, number 0 of
BeiDou, is listed as one of GLONASS.

* `sv_parse` — the counters are those of `SvReader`, so what was shown of them holds here.
* **`gnss_reports_documented`** — every satellite that is reported has the constellation of its number.
-/

namespace Hal

open List Function

/-- `GnssConstellationType`, as far as it is used. -/
inductive Constellation where
  | unknown
  | gps
  | glonass
  | beidou
deriving DecidableEq

/-- The numbers of a constellation, as the comments in `nmea_reader_update_sv_status_gnss` give them. -/
def Constellation.HasSvid : Constellation → ℤ → Prop
  | .unknown, _ => False
  | .gps, id => 1 ≤ id ∧ id ≤ 32
  | .glonass, id => 65 ≤ id ∧ id ≤ 96
  | .beidou, id => 201 ≤ id ∧ id ≤ 232

/-! ## The reader in GNSS mode -/

/-- The fields of an entry of `gnss_sv_list` that `SvEntry` does not have. -/
structure GnssTags where
  constellation : Constellation
  usedInFix : Bool

/-- `gnssReports` is a ghost: what the callback has been given. -/
structure GnssReader where
  sv : SvReader
  tags : ℕ → GnssTags
  fixMode : ℤ
  /-- `sv_used_in_fix`. -/
  svUsedInFix : ℤ → Bool
  gnssReports : List (List (SvEntry × GnssTags))

/-- A sentence, with `gps_nmea_end_tag`; a start with new callbacks; `CMD_RESTART`. -/
inductive GnssAct where
  | sentence (line : List UInt8) (endTag : Bool)
  | setCallback
  | restart

/-- The number of a satellite in a sentence of the constellation. -/
def satelliteId (bds : Bool) (tok : List UInt8) : ℤ := if bds then wrapInt (str2int tok + 200) else str2int tok

def markUsed (bds : Bool) : (ℤ → Bool) → List (List UInt8) → ℤ → Bool
  | used, [] => used
  | used, tok :: toks =>
    if tok = [] then used
    else if 1 ≤ satelliteId bds tok ∧ satelliteId bds tok ≤ 32 then
      markUsed bds (update used (satelliteId bds tok) true) toks
    else if 193 ≤ satelliteId bds tok ∧ satelliteId bds tok ≤ 197 then
      -- QZSS
      markUsed bds (update used (satelliteId bds tok) false) toks
    else if 65 ≤ satelliteId bds tok ∧ satelliteId bds tok ≤ 96 then
      markUsed bds (update used (satelliteId bds tok) true) toks
    else if 201 ≤ satelliteId bds tok ∧ satelliteId bds tok ≤ 232 then
      markUsed bds (update used (satelliteId bds tok) true) toks
    else used

/-- The sentence id passes the test of the `GSA` branch. -/
def isGsa (id : List UInt8) : Bool :=
  id.take 5 = asciiBytes "GPGSA" ∨ id.take 5 = asciiBytes "BDGSA" ∨ id.take 5 = asciiBytes "GLGSA"

def locFixed (fixMode : ℤ) : Bool := fixMode = 2 ∨ fixMode = 3

/-- The constellation that an entry is given. -/
def constellationOf (id : ℤ) : Constellation :=
  if id < 33 then .gps else if 200 < id then .beidou else .glonass

namespace GnssReader

def init : GnssReader := ⟨SvReader.init, fun _ => ⟨.unknown, false⟩, 0, fun _ => false, []⟩

/-- `nmea_reader_update_sv_status_gnss`. -/
def updateSvStatus (r : GnssReader) (sv : SvFields) : GnssReader :=
  if SvReader.ignored .gnss sv.id = true ∨ maxSvs .gnss ≤ r.sv.svCount then r
  else if maxSvs .gnss ≤ r.sv.svCount + r.sv.numSvs then r
  else
    { r with
      sv := r.sv.updateSvStatus .gnss sv
      tags := update r.tags (r.sv.svCount + r.sv.numSvs).toNat
        ⟨constellationOf sv.id, r.svUsedInFix sv.id⟩ }

def gsvBranch (r : GnssReader) (gsv : GsvSentence) : GnssReader :=
  let s := gsv.svs.foldl updateSvStatus { r with sv := r.sv.startSet gsv.seq }
  { s with sv := s.sv.closeSet gsv }

def gsaBranch (r : GnssReader) (tokens : List (List UInt8)) : GnssReader :=
  if locFixed (str2int (nmeaTokenizerGet tokens 2)) then
    { r with
      fixMode := str2int (nmeaTokenizerGet tokens 2)
      svUsedInFix := markUsed ((nmeaTokenizerGet tokens 0).take 2 = asciiBytes "BD") r.svUsedInFix
        ((List.range 12).map fun idx => nmeaTokenizerGet tokens (idx + 3)) }
  else { r with fixMode := str2int (nmeaTokenizerGet tokens 2) }

def otherBranch (r : GnssReader) (line : List UInt8) : GnssReader :=
  if isGsa (nmeaTokenizerGet (nmeaTokenizerInit line) 0) then r.gsaBranch (nmeaTokenizerInit line) else r

def report (r : GnssReader) (endTag : Bool) : GnssReader :=
  if r.sv.numSvs ≠ 0 ∧ endTag = true then
    { r with
      sv := r.sv.report endTag
      svUsedInFix := fun _ => false
      gnssReports := r.gnssReports ++ [(List.range r.sv.numSvs.toNat).map fun i => (r.sv.svList i, r.tags i)] }
  else r

/-- `nmea_reader_parse`. -/
def parse (r : GnssReader) (line : List UInt8) (endTag : Bool) : GnssReader :=
  match parseLine .gnss line with
  | none => r
  | some none => (r.otherBranch line).report endTag
  | some (some gsv) => (r.gsvBranch gsv).report endTag

def step (r : GnssReader) : GnssAct → Option GnssReader
  | .sentence line endTag =>
    let r := r.parse line endTag
    some { r with sv.sentences := r.sv.sentences + 1 }
  | .setCallback => some { r with sv.svCount := 0, sv.numSvs := 0, sv.counted := false }
  | .restart => some { r with fixMode := 0 }

/-- Every entry that was reported has the constellation of its number. -/
def Documented (r : GnssReader) : Prop :=
  ∀ rep ∈ r.gnssReports, ∀ e ∈ rep, e.2.constellation.HasSvid e.1.fields.id

/-- No satellite of the sentence has number 200, and no set is closed on a count that has been added before. -/
def Numbered (r : GnssReader) : GnssAct → Prop
  | .sentence line endTag => (∀ gsv ∈ (parseLine .gnss line).join, ∀ sv ∈ gsv.svs, sv.id ≠ 200)
      ∧ r.sv.Restarted .gnss (.sentence line endTag)
  | .setCallback => True
  | .restart => True

instance (r : GnssReader) : DecidablePred r.Numbered
  | .sentence _ _ => inferInstanceAs (Decidable (_ ∧ SvReader.Restarted _ _ _))
  | .setCallback | .restart => isTrue trivial

/-! ## The counters are those of `SvReader` -/

variable {r : GnssReader}

lemma sv_updateSvStatus (r : GnssReader) (sv : SvFields) :
    (r.updateSvStatus sv).sv = r.sv.updateSvStatus .gnss sv := by
  unfold updateSvStatus SvReader.updateSvStatus
  split_ifs
  · rfl
  · rfl
  · rfl

lemma sv_foldl (svs : List SvFields) :
    ∀ r : GnssReader, (svs.foldl updateSvStatus r).sv
      = svs.foldl (SvReader.updateSvStatus .gnss) r.sv := by
  induction svs with
  | nil => exact fun _ => rfl
  | cons sv svs ih =>
    intro r
    rw [foldl_cons, foldl_cons, ih, sv_updateSvStatus]

lemma sv_gsvBranch (r : GnssReader) (gsv : GsvSentence) : (r.gsvBranch gsv).sv = r.sv.gsvBranch .gnss gsv := by
  show (gsv.svs.foldl updateSvStatus { r with sv := r.sv.startSet gsv.seq }).sv.closeSet gsv = _
  rw [sv_foldl]
  rfl

lemma sv_otherBranch (r : GnssReader) (line : List UInt8) : (r.otherBranch line).sv = r.sv := by
  unfold otherBranch gsaBranch
  split_ifs
  · rfl
  · rfl
  · rfl

lemma sv_report (r : GnssReader) (endTag : Bool) : (r.report endTag).sv = r.sv.report endTag := by
  unfold report
  split_ifs with hreport
  · rfl
  · exact (if_neg hreport).symm

lemma sv_parse (r : GnssReader) (line : List UInt8) (endTag : Bool) :
    (r.parse line endTag).sv = r.sv.parse .gnss line endTag := by
  unfold parse SvReader.parse
  rcases parseLine .gnss line with _ | _ | gsv
  · rfl
  · rw [sv_report, sv_otherBranch]
  · rw [sv_report, sv_gsvBranch]

/-! ## Entries and their constellations -/

/-- **The ranges agree**, but for one number. -/
lemma hasSvid_constellationOf {id : ℤ} (haccepted : SvReader.ignored .gnss id = false) (hid : id ≠ 200) :
    (constellationOf id).HasSvid id := by
  simp only [SvReader.ignored, decide_eq_false_iff_not] at haccepted
  unfold constellationOf
  split_ifs with hgps hbeidou
  · show 1 ≤ id ∧ id ≤ 32
    omega
  · show 201 ≤ id ∧ id ≤ 232
    omega
  · show 65 ≤ id ∧ id ≤ 96
    omega

/-- An entry that has been written has the constellation of its number. -/
def Tagged (r : GnssReader) : Prop :=
  ∀ i k, (r.sv.svList i).writer = some k → (r.tags i).constellation.HasSvid (r.sv.svList i).fields.id

lemma Tagged.updateSvStatus (h : r.Tagged) {sv : SvFields} (hid : sv.id ≠ 200) : (r.updateSvStatus sv).Tagged := by
  unfold GnssReader.updateSvStatus
  split_ifs with hignored hfull
  · exact h
  · exact h
  · intro i k hwriter
    -- the array after the write
    have hlist : (r.sv.updateSvStatus .gnss sv).svList
        = update r.sv.svList (r.sv.svCount + r.sv.numSvs).toNat ⟨sv, some r.sv.sentences⟩ := by
      rw [SvReader.updateSvStatus, if_neg hignored, if_neg hfull]
    rw [hlist] at hwriter ⊢
    dsimp only
    by_cases heq : i = (r.sv.svCount + r.sv.numSvs).toNat
    · subst heq
      rw [update_self, update_self]
      exact hasSvid_constellationOf (Bool.eq_false_iff.mpr fun hyes => hignored (.inl hyes)) hid
    · rw [update_of_ne heq] at hwriter
      rw [update_of_ne heq, update_of_ne heq]
      exact h i k hwriter

lemma Tagged.foldl_update {svs : List SvFields} {r : GnssReader} (h : r.Tagged) (hids : ∀ sv ∈ svs, sv.id ≠ 200) :
    (svs.foldl GnssReader.updateSvStatus r).Tagged := by
  induction svs generalizing r with
  | nil => exact h
  | cons sv svs ih =>
    exact ih (h.updateSvStatus (hids sv mem_cons_self)) fun sv' hsv' => hids sv' (mem_cons_of_mem sv hsv')

lemma svList_startSet (r : SvReader) (seq : ℤ) : (r.startSet seq).svList = r.svList := by
  unfold SvReader.startSet
  split_ifs
  · rfl
  · rfl

lemma svList_closeSet (r : SvReader) (gsv : GsvSentence) : (r.closeSet gsv).svList = r.svList := by
  unfold SvReader.closeSet
  split_ifs
  · rfl
  · rfl
  · rfl

lemma Tagged.gsvBranch (h : r.Tagged) {gsv : GsvSentence} (hids : ∀ sv ∈ gsv.svs, sv.id ≠ 200) :
    (r.gsvBranch gsv).Tagged := by
  have hstart : GnssReader.Tagged { r with sv := r.sv.startSet gsv.seq } := by
    intro i k hwriter
    rw [svList_startSet] at hwriter ⊢
    exact h i k hwriter
  intro i k hwriter
  rw [GnssReader.gsvBranch, svList_closeSet] at hwriter ⊢
  exact hstart.foldl_update hids i k hwriter

structure Inv (r : GnssReader) : Prop where
  sv : r.sv.Inv .gnss
  tagged : r.Tagged
  documented : r.Documented

lemma init_inv : init.Inv := by
  refine ⟨SvReader.init_inv .gnss, fun i k hwriter => ?_, fun rep hrep => ?_⟩
  · cases hwriter
  · cases hrep

lemma documented_report (hsv : r.sv.Inv .gnss) (htagged : r.Tagged) (h : r.Documented) (endTag : Bool) :
    (r.report endTag).Documented := by
  unfold report
  split_ifs
  · intro rep hrep e he
    rcases mem_append.mp hrep with hrep | hrep
    · exact h rep hrep e he
    · rw [mem_singleton.mp hrep] at he
      obtain ⟨i, hi, rfl⟩ := mem_map.mp he
      have hlt : (i : ℤ) < r.sv.numSvs := by
        have := mem_range.mp hi
        omega
      obtain ⟨k, hwriter, -⟩ := hsv.fresh i hlt
      exact htagged i k hwriter
  · exact h

lemma Tagged.report (h : r.Tagged) (endTag : Bool) : (r.report endTag).Tagged := by
  unfold GnssReader.report
  split_ifs with hreport
  · have hlist : (r.sv.report endTag).svList = r.sv.svList := by rw [SvReader.report, if_pos hreport]
    intro i k hwriter
    rw [hlist] at hwriter ⊢
    exact h i k hwriter
  · exact h

lemma Tagged.otherBranch (h : r.Tagged) (line : List UInt8) : (r.otherBranch line).Tagged := by
  unfold GnssReader.otherBranch GnssReader.gsaBranch
  split_ifs
  · exact h
  · exact h
  · exact h

lemma gnssReports_otherBranch (line : List UInt8) : (r.otherBranch line).gnssReports = r.gnssReports := by
  unfold otherBranch gsaBranch
  split_ifs
  · rfl
  · rfl
  · rfl

lemma foldl_frame (svs : List SvFields) :
    ∀ r : GnssReader, (svs.foldl updateSvStatus r).gnssReports = r.gnssReports
      ∧ (svs.foldl updateSvStatus r).svUsedInFix = r.svUsedInFix := by
  induction svs with
  | nil => exact fun _ => ⟨rfl, rfl⟩
  | cons sv svs ih =>
    intro r
    have hupdate : (r.updateSvStatus sv).gnssReports = r.gnssReports
        ∧ (r.updateSvStatus sv).svUsedInFix = r.svUsedInFix := by
      unfold updateSvStatus
      split_ifs
      · exact ⟨rfl, rfl⟩
      · exact ⟨rfl, rfl⟩
      · exact ⟨rfl, rfl⟩
    exact ⟨(ih _).1.trans hupdate.1, (ih _).2.trans hupdate.2⟩

lemma Inv.parse (h : r.Inv) {line : List UInt8} {endTag : Bool} (hnumbered : r.Numbered (.sentence line endTag)) :
    (r.parse line endTag).Tagged ∧ (r.parse line endTag).Documented := by
  obtain ⟨hids, hrestarted⟩ := hnumbered
  unfold GnssReader.parse
  split
  · exact ⟨h.tagged, h.documented⟩
  · have htagged := h.tagged.otherBranch line
    have hsv : (r.otherBranch line).sv.Inv .gnss := by
      rw [sv_otherBranch]
      exact h.sv
    have hdocumented : (r.otherBranch line).Documented := by
      unfold Documented
      rw [gnssReports_otherBranch]
      exact h.documented
    exact ⟨htagged.report endTag, documented_report hsv htagged hdocumented endTag⟩
  · next gsv hgsv =>
    have hmem : gsv ∈ (parseLine .gnss line).join := by
      rw [hgsv]
      rfl
    have htagged := h.tagged.gsvBranch (hids gsv hmem)
    have hsv : (r.gsvBranch gsv).sv.Inv .gnss := by
      rw [sv_gsvBranch]
      exact h.sv.gsvBranch (hrestarted gsv hmem)
    have hdocumented : (r.gsvBranch gsv).Documented := by
      unfold Documented GnssReader.gsvBranch
      rw [(foldl_frame _ _).1]
      exact h.documented
    exact ⟨htagged.report endTag, documented_report hsv htagged hdocumented endTag⟩

/-- **One step.**  The counters step as `SvReader` does. -/
lemma step_inv (r : GnssReader) (act : GnssAct) (r' : GnssReader) (h : r.Inv) (hnumbered : r.Numbered act)
    (hr' : r.step act = some r') : r'.Inv := by
  cases act with
  | sentence line endTag =>
    cases Option.some.inj hr'
    obtain ⟨htagged, hdocumented⟩ := h.parse hnumbered
    refine ⟨SvReader.step_inv r.sv (.sentence line endTag) _ h.sv hnumbered.2 ?_, htagged, hdocumented⟩
    simp only [SvReader.step, sv_parse]
  | setCallback =>
    cases Option.some.inj hr'
    exact ⟨h.sv.clear, h.tagged, h.documented⟩
  | restart =>
    cases Option.some.inj hr'
    exact ⟨h.sv, h.tagged, h.documented⟩

/-- **Every reported satellite has the constellation of its number**, in every state of a run of such steps. -/
theorem gnss_reports_documented (acts : List GnssAct) (hacts : StepsMeet step Numbered init acts) :
    Along step Documented init acts :=
  along_of_stepsMeet step_inv (fun _ h => h.documented) init_inv hacts

/-- A satellite of each constellation, those of GPS and BeiDou used. -/
def mixedRun : List GnssAct :=
  [.sentence (asciiBytes "$GPGSA,A,3,05,,,,,,,,,,,,1.8,1.0,1.5*33\r\n") false,
    .sentence (asciiBytes "$BDGSA,A,3,09,,,,,,,,,,,,1.8,1.0,1.5*2C\r\n") false,
    .sentence (asciiBytes "$GPGSV,1,1,01,05,40,083,46*4F\r\n") false,
    .sentence (asciiBytes "$GLGSV,1,1,01,70,12,200,25*50\r\n") false,
    .sentence (asciiBytes "$BDGSV,1,1,01,09,31,120,33*50\r\n") true]

theorem gnss_reports_documented_mixedRun :
    ((run step init mixedRun).map fun r => r.gnssReports.map fun rep =>
        rep.map fun e => (e.1.fields.id, e.2.constellation, e.2.usedInFix))
      = some [[(5, .gps, true), (70, .glonass, false), (209, .beidou, true)]]
    ∧ Along step Documented init mixedRun :=
  ⟨by decide +kernel, gnss_reports_documented mixedRun (by decide +kernel)⟩

/-- A sentence of BeiDou with a satellite 0. -/
def zeroRun : List GnssAct := [.sentence (asciiBytes "$BDGSV,1,1,01,00,31,120,33*59\r\n") true]

/-- It is reported as number 200 of GLONASS. -/
theorem beidou_zero_is_glonass :
    ∃ r, run step init zeroRun = some r
      ∧ (r.gnssReports.map fun rep => rep.map fun e => (e.1.fields.id, e.2.constellation)) = [[(200, .glonass)]]
      ∧ ¬ r.Documented := by
  have hrun : ((run step init zeroRun).map fun r =>
      r.gnssReports.map fun rep => rep.map fun e => (e.1.fields.id, e.2.constellation)) = some [[(200, .glonass)]] := by
    decide +kernel
  obtain ⟨r, hr, hreports⟩ := Option.map_eq_some_iff.mp hrun
  refine ⟨r, hr, hreports, fun hdocumented => ?_⟩
  have hmem : [((200 : ℤ), Constellation.glonass)]
      ∈ r.gnssReports.map fun rep => rep.map fun e => (e.1.fields.id, e.2.constellation) :=
    hreports ▸ mem_singleton_self _
  obtain ⟨rep, hrep, heq⟩ := mem_map.mp hmem
  obtain ⟨e, he, hpair⟩ := mem_map.mp (heq ▸ mem_singleton_self ((200 : ℤ), Constellation.glonass))
  obtain ⟨hid, hconstellation⟩ := Prod.mk.inj hpair
  have hrange := hdocumented rep hrep e he
  rw [hid, hconstellation] at hrange
  exact absurd hrange.2 (by decide)

end GnssReader

end Hal
