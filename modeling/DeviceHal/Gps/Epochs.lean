import DeviceHal.Gps.Str2int

/-!
# Epochs of satellites

The receiver sends its sentences in epochs, and raises the end tag with the last one.  The satellites of an epoch come
in groups of `GSV` sentences, one group for each constellation, with other sentences between and inside them.

Three counters hold the array together: `sv_count` is started again by the first sentence of a group, `num_svs` by the
report, and the place of an entry is their sum.  What they amount to is said by `Holds`: the array begins with the
satellites of the groups that are complete, and goes on with those of the group that is being read.

* `Holds.foldl`, `Ready.gsvBranch` — satellite by satellite, and sentence by sentence.
* `run_group`, `run_groups` — group by group.
* **`epochs_reported`** — every epoch is reported once, or not at all if it has no satellites.

In GPS mode the groups are those of GPS and GLONASS; the sentences of other constellations are skipped, whatever the
numbers of their satellites (`galileo_not_listed`).
-/

namespace Hal

open List Function

def SvReport.content (rep : SvReport) : ℤ × List SvFields := (rep.numSvs, rep.entries.map (·.fields))

namespace SvReader

/-! ## Epochs -/

/-- What the `GSV` branch of the mode reads of a line. -/
def gsvOf (mode : GpsMode) (line : List UInt8) : Option GsvSentence := (parseLine mode line).join

/-- The satellites of some sentences, in order of arrival, whose numbers the mode accepts. -/
def satellites (mode : GpsMode) (gsvs : List GsvSentence) : List SvFields :=
  (gsvs.flatMap (·.svs)).filter fun sv => !ignored mode sv.id

/-- A group of `GSV` sentences: numbered from 1, with the same totals, and every one but the last full. -/
def IsGroup (group : List GsvSentence) : Prop :=
  group ≠ [] ∧ ∀ p ∈ group.zipIdx, p.1.num = (group.length : ℤ) ∧ p.1.seq = (p.2 : ℤ) + 1
    ∧ (∀ gsv ∈ group, gsv.cnt = p.1.cnt) ∧ 4 * ((group.length : ℤ) - 1) ≤ p.1.cnt

instance (group : List GsvSentence) : Decidable (IsGroup group) := inferInstanceAs (Decidable (_ ∧ _))

/-- The sentences of an epoch.  The last one has the end tag. -/
structure Epoch where
  lines : List (List UInt8)
  last : List UInt8

namespace Epoch

def acts (e : Epoch) : List SvAct := e.lines.map (.sentence · false) ++ [.sentence e.last true]

/-- The `GSV` sentences that the mode reads. -/
def gsvs (mode : GpsMode) (e : Epoch) : List GsvSentence := (e.lines ++ [e.last]).filterMap (gsvOf mode)

/-- The `GSV` sentences are whole groups, and the last sentence is one that the parser does not throw away. -/
def WellFormed (mode : GpsMode) (e : Epoch) : Prop :=
  (∃ groups : List (List GsvSentence), e.gsvs mode = groups.flatten ∧ ∀ group ∈ groups, IsGroup group)
    ∧ (parseLine mode e.last).isSome = true

def listed (mode : GpsMode) (e : Epoch) : List SvFields := (satellites mode (e.gsvs mode)).take (maxSvs mode).toNat

/-- The reports of the epoch: `num_svs` and the satellites. -/
def expected (mode : GpsMode) (e : Epoch) : List (ℤ × List SvFields) :=
  if e.listed mode = [] then [] else [((e.listed mode).length, e.listed mode)]

end Epoch

/-! ## What a line gives -/

lemma inInt_wrapInt (z : ℤ) : InInt (wrapInt z) := by
  unfold InInt
  rw [wrapInt_def]
  split_ifs
  · omega
  · omega

lemma inInt_digits {cs : List UInt8} : ∀ {v n : ℤ}, InInt v → digits v cs = some n → InInt n := by
  induction cs with
  | nil =>
    intro v n hv hn
    exact Option.some.inj hn ▸ hv
  | cons c cs ih =>
    intro v n hv hn
    rw [digits] at hn
    split_ifs at hn
    exact ih (inInt_wrapInt _) hn

lemma inInt_str2int (tok : List UInt8) : InInt (str2int tok) := by
  have hfail : InInt (-1) := by decide
  rw [Nmea.lists_str2int_eq]
  cases hdigits : digits 0 (Nmea.unsignedPart tok) with
  | none =>
    split_ifs
    · exact hfail
    · exact hfail
  | some n =>
    split_ifs
    · exact inInt_wrapInt _
    · exact inInt_digits (by decide) hdigits

variable {line : List UInt8}

lemma gsvOf_spec {mode : GpsMode} {gsv : GsvSentence} (h : gsvOf mode line = some gsv) :
    gsv.svs.length = (svNum gsv.seq gsv.cnt).toNat ∧ InInt gsv.cnt := by
  have hparse : parseLine mode line = some (some gsv) := Option.join_eq_some_iff.mp h
  unfold parseLine at hparse
  dsimp only at hparse
  split_ifs at hparse
  · cases Option.some.inj (Option.some.inj hparse)
    exact ⟨by rw [length_map, length_range], inInt_str2int _⟩
  · cases Option.some.inj hparse

lemma svNum_le_four (seq cnt : ℤ) : svNum seq cnt ≤ 4 := min_le_right _ _

lemma svNum_le {k cnt : ℤ} (hk : 0 ≤ k) (hfull : 4 * k ≤ cnt) (hcnt : InInt cnt) :
    svNum (k + 1) cnt ≤ cnt - 4 * k := by
  rcases hcnt with ⟨-, hmax⟩
  have hbase : wrapInt ((k + 1 - 1) * nmeaMaxSvInfo) = 4 * k := by
    rw [Nmea.wrapInt_of_inInt]
    · unfold nmeaMaxSvInfo
      omega
    · unfold InInt nmeaMaxSvInfo
      omega
  have hleft : wrapInt (cnt - 4 * k) = cnt - 4 * k := Nmea.wrapInt_of_inInt ⟨by omega, by omega⟩
  unfold svNum
  rw [hbase, hleft]
  exact min_le_left _ _

/-! ## What the array holds -/

/-- The array begins with the satellites of the groups that are complete, and goes on with those of the open one. -/
structure Holds (mode : GpsMode) (r : SvReader) (closed current : List SvFields) : Prop where
  num : r.numSvs = (closed.take (maxSvs mode).toNat).length
  count : r.numSvs + r.svCount = ((closed ++ current).take (maxSvs mode).toNat).length
  entries : (List.range ((closed ++ current).take (maxSvs mode).toNat).length).map (fun i => (r.svList i).fields)
    = (closed ++ current).take (maxSvs mode).toNat

variable {mode : GpsMode} {r : SvReader} {closed current : List SvFields}

lemma toNat_maxSvs (mode : GpsMode) : ((maxSvs mode).toNat : ℤ) = maxSvs mode := by
  cases mode
  · rfl
  · rfl

lemma map_range_update (list : ℕ → SvEntry) (n : ℕ) (e : SvEntry) :
    (List.range (n + 1)).map (fun i => (update list n e i).fields)
      = (List.range n).map (fun i => (list i).fields) ++ [e.fields] := by
  rw [range_succ, map_append, map_singleton, update_self]
  congr 1
  refine map_congr_left fun i hi => ?_
  rw [update_of_ne (mem_range.mp hi).ne]

lemma Holds.full (h : Holds mode r closed current) (hfull : maxSvs mode ≤ r.numSvs + r.svCount) (more : List SvFields) :
    Holds mode r closed (current ++ more) := by
  have hlength : (maxSvs mode).toNat ≤ (closed ++ current).length := by
    have hcount := h.count
    rw [length_take] at hcount
    omega
  have htake : (closed ++ (current ++ more)).take (maxSvs mode).toNat = (closed ++ current).take (maxSvs mode).toNat := by
    rw [← append_assoc, take_append_of_le_length hlength]
  refine ⟨h.num, ?_, ?_⟩
  · rw [htake]
    exact h.count
  · rw [htake]
    exact h.entries

lemma Holds.update (h : Holds mode r closed current) (sv : SvFields) :
    Holds mode (r.updateSvStatus mode sv) closed (current ++ [sv].filter fun sv => !ignored mode sv.id) := by
  have hnum := h.num
  have hcount := h.count
  unfold updateSvStatus
  split_ifs with hignored hfull
  · rcases hignored with hignored | hfull
    · rw [filter_cons_of_neg (by simp [hignored]), filter_nil, append_nil]
      exact h
    · exact h.full (by omega) _
  · exact h.full (by omega) _
  · obtain ⟨haccepted, hroom⟩ := not_or.mp hignored
    rw [filter_cons_of_pos (by simp [haccepted]), filter_nil]
    -- there is room, so nothing has been cut yet
    have hlength : (closed ++ current).length < (maxSvs mode).toNat := by
      rw [length_take] at hcount
      omega
    have htake : (closed ++ current).take (maxSvs mode).toNat = closed ++ current := take_of_length_le hlength.le
    have htake' : (closed ++ (current ++ [sv])).take (maxSvs mode).toNat = closed ++ current ++ [sv] := by
      rw [← append_assoc, take_of_length_le]
      rw [length_append, length_singleton]
      omega
    rw [htake] at hcount
    have hentries := h.entries
    rw [htake] at hentries
    have hplace : (r.svCount + r.numSvs).toNat = (closed ++ current).length := by omega
    have hlength' : (closed ++ current ++ [sv]).length = (closed ++ current).length + 1 := by
      rw [length_append, length_singleton]
    refine ⟨h.num, ?_, ?_⟩
    · rw [htake', hlength']
      dsimp only
      omega
    · rw [htake', hlength', hplace, map_range_update, hentries]

lemma Holds.foldl (svs : List SvFields) : ∀ {r : SvReader} {current : List SvFields}, Holds mode r closed current →
    Holds mode (svs.foldl (updateSvStatus mode) r) closed (current ++ svs.filter fun sv => !ignored mode sv.id) := by
  induction svs with
  | nil =>
    intro r current h
    rw [filter_nil, append_nil]
    exact h
  | cons sv svs ih =>
    intro r current h
    have hrest := ih (h.update sv)
    rw [append_assoc, ← filter_append] at hrest
    exact hrest

lemma Holds.close (h : Holds mode r closed current) :
    Holds mode { r with numSvs := r.numSvs + r.svCount, svCount := 0, counted := false } (closed ++ current) [] := by
  refine ⟨h.count, ?_, ?_⟩
  · rw [append_nil]
    exact (add_zero _).trans h.count
  · rw [append_nil]
    exact h.entries

lemma Holds.svCount_le (h : Holds mode r closed current) : r.svCount ≤ current.length := by
  have hnum := h.num
  have hcount := h.count
  rw [length_take] at hnum hcount
  rw [length_append] at hcount
  omega

/-! ## Sentences of a group -/

/-- Before the next sentence of a group, of which `part` has been read. -/
def Ready (mode : GpsMode) (r : SvReader) (closed : List SvFields) (part : List GsvSentence) : Prop :=
  Holds mode (r.startSet (part.length + 1)) closed (satellites mode part)

lemma satellites_append_singleton (mode : GpsMode) (part : List GsvSentence) (gsv : GsvSentence) :
    satellites mode (part ++ [gsv]) = satellites mode part ++ gsv.svs.filter fun sv => !ignored mode sv.id := by
  simp [satellites]

variable {part group : List GsvSentence} {gsv : GsvSentence}

lemma Ready.sentences (h : Ready mode r closed part) (n : ℕ) : Ready mode { r with sentences := n } closed part := by
  unfold Ready startSet at h ⊢
  split_ifs with hfirst
  · rw [if_pos hfirst] at h
    exact ⟨h.num, h.count, h.entries⟩
  · rw [if_neg hfirst] at h
    exact ⟨h.num, h.count, h.entries⟩

lemma Ready.foldl (h : Ready mode r closed part) (hseq : gsv.seq = (part.length : ℤ) + 1) :
    Holds mode (gsv.svs.foldl (updateSvStatus mode) (r.startSet gsv.seq)) closed
      (satellites mode (part ++ [gsv])) := by
  rw [hseq, satellites_append_singleton]
  exact Holds.foldl gsv.svs h

lemma Ready.gsvBranch (h : Ready mode r closed part) (hseq : gsv.seq = (part.length : ℤ) + 1)
    (hmore : gsv.seq ≠ gsv.num) : Ready mode (r.gsvBranch mode gsv) closed (part ++ [gsv]) := by
  have hnext : ¬ ((part ++ [gsv]).length : ℤ) + 1 = 1 := by
    rw [length_append, length_singleton]
    omega
  unfold Ready SvReader.gsvBranch
  rw [closeSet, if_neg hmore, startSet, if_neg hnext]
  exact h.foldl hseq

lemma Ready.gsvBranch_last (h : Ready mode r closed part) (hseq : gsv.seq = (part.length : ℤ) + 1)
    (hlast : gsv.seq = gsv.num) (hcnt : (satellites mode (part ++ [gsv])).length ≤ gsv.cnt) :
    Ready mode (r.gsvBranch mode gsv) (closed ++ satellites mode (part ++ [gsv])) [] := by
  have hholds := h.foldl hseq
  have hcount := hholds.svCount_le.trans hcnt
  unfold Ready SvReader.gsvBranch
  rw [closeSet, if_pos hlast, if_pos hcount]
  exact hholds.close

lemma length_satellites_le (mode : GpsMode) {part : List GsvSentence} (hfour : ∀ gsv ∈ part, gsv.svs.length ≤ 4) :
    (satellites mode part).length ≤ 4 * part.length := by
  induction part using List.reverseRecOn with
  | nil => exact Nat.le_refl 0
  | append_singleton part gsv ih =>
    have hpart := ih fun gsv' h => hfour gsv' (mem_append_left _ h)
    have hgsv := hfour gsv mem_concat_self
    have hfilter := length_filter_le (fun sv : SvFields => !ignored mode sv.id) gsv.svs
    rw [satellites_append_singleton, length_append, length_append, length_singleton]
    omega

lemma IsGroup.numbers {k : ℕ} (hgroup : IsGroup group) (hget : group[k]? = some gsv) :
    gsv.num = (group.length : ℤ) ∧ gsv.seq = (k : ℤ) + 1 ∧ 4 * ((group.length : ℤ) - 1) ≤ gsv.cnt := by
  obtain ⟨hnum, hseq, -, hfull⟩ := hgroup.2 (gsv, k) (mem_zipIdx_iff_getElem?.mpr hget)
  exact ⟨hnum, hseq, hfull⟩

lemma IsGroup.length_satellites_le (hgroup : IsGroup (part ++ [gsv]))
    (hread : ∀ gsv' ∈ part ++ [gsv], ∃ line, gsvOf mode line = some gsv') :
    (satellites mode (part ++ [gsv])).length ≤ gsv.cnt := by
  obtain ⟨-, hseq, hfull⟩ := hgroup.numbers getElem?_concat_length
  rw [length_append, length_singleton] at hfull
  have hfour : ∀ gsv' ∈ part, gsv'.svs.length ≤ 4 := by
    intro gsv' hmem
    obtain ⟨line, hline⟩ := hread gsv' (mem_append_left _ hmem)
    have hsvNum := svNum_le_four gsv'.seq gsv'.cnt
    have hlength := (gsvOf_spec hline).1
    omega
  have hpart := SvReader.length_satellites_le mode hfour
  obtain ⟨line, hline⟩ := hread gsv mem_concat_self
  obtain ⟨hlength, hint⟩ := gsvOf_spec hline
  have hsvNum := svNum_le (k := part.length) (by omega) (by omega) hint
  have hfilter := length_filter_le (fun sv : SvFields => !ignored mode sv.id) gsv.svs
  rw [hseq] at hlength
  rw [satellites_append_singleton, length_append]
  omega

/-! ## Lines without the end tag -/

lemma report_false (r : SvReader) : r.report false = r := if_neg fun h => Bool.false_ne_true h.2

lemma parse_false_of_none (h : gsvOf mode line = none) : r.parse mode line false = r := by
  unfold gsvOf at h
  unfold parse
  rcases hparse : parseLine mode line with _ | _ | gsv
  · rfl
  · exact report_false r
  · rw [hparse] at h
    cases h

lemma parse_false_of_some (h : gsvOf mode line = some gsv) : r.parse mode line false = r.gsvBranch mode gsv := by
  rw [parse, Option.join_eq_some_iff.mp h]
  exact report_false _

/-- What every `GSV` sentence preserves, lines without the end tag preserve; `P` says what holds when some sentences
have been read. -/
lemma run_lines {P : List GsvSentence → SvReader → Prop}
    (hother : ∀ {gsvs r} (n : ℕ), P gsvs r → P gsvs { r with sentences := n })
    (hgsv : ∀ {gsvs r gsv}, P gsvs r → P (gsvs ++ [gsv]) (r.gsvBranch mode gsv)) (h : P [] r)
    (lines : List (List UInt8)) :
    ∃ r', run (step mode) r (lines.map (.sentence · false)) = some r' ∧ P (lines.filterMap (gsvOf mode)) r' := by
  induction lines using List.reverseRecOn with
  | nil => exact ⟨r, rfl, h⟩
  | append_singleton lines line ih =>
    obtain ⟨q, hq, hP⟩ := ih
    refine ⟨{ q.parse mode line false with sentences := (q.parse mode line false).sentences + 1 }, ?_, ?_⟩
    · rw [map_append, run_append]
      exact ⟨q, hq, rfl⟩
    · refine hother _ ?_
      rw [filterMap_append]
      cases hline : gsvOf mode line with
      | none =>
        rw [filterMap_cons_none hline, filterMap_nil, append_nil, parse_false_of_none hline]
        exact hP
      | some gsv =>
        rw [filterMap_cons_some hline, filterMap_nil, parse_false_of_some hline]
        exact hgsv hP

lemma reports_updateSvStatus (r : SvReader) (sv : SvFields) : (r.updateSvStatus mode sv).reports = r.reports := by
  unfold updateSvStatus
  split_ifs
  · rfl
  · rfl
  · rfl

lemma reports_foldl (svs : List SvFields) :
    ∀ r : SvReader, (svs.foldl (updateSvStatus mode) r).reports = r.reports := by
  induction svs with
  | nil => exact fun _ => rfl
  | cons sv svs ih => exact fun r => (ih _).trans (reports_updateSvStatus r sv)

lemma reports_gsvBranch (r : SvReader) (gsv : GsvSentence) : (r.gsvBranch mode gsv).reports = r.reports := by
  have hstart : (r.startSet gsv.seq).reports = r.reports := by
    unfold startSet
    split_ifs
    · rfl
    · rfl
  have hclose : ∀ q : SvReader, (q.closeSet gsv).reports = q.reports := by
    intro q
    unfold closeSet
    split_ifs
    · rfl
    · rfl
    · rfl
  exact ((hclose _).trans (reports_foldl gsv.svs _)).trans hstart

/-! ## Groups -/

/-- When the sentences `gsvs` of a group have been read. -/
structure Reading (mode : GpsMode) (group : List GsvSentence) (closed : List SvFields) (gsvs : List GsvSentence)
    (r : SvReader) : Prop where
  /-- The group is open. -/
  ready : ∀ gsv rest, group = gsvs ++ gsv :: rest → Ready mode r closed gsvs
  /-- It is complete. -/
  complete : group = gsvs → Ready mode r (closed ++ satellites mode group) []

lemma Reading.gsvBranch {gsvs : List GsvSentence} (hgroup : IsGroup group)
    (hread : ∀ gsv' ∈ group, ∃ line, gsvOf mode line = some gsv') (h : Reading mode group closed gsvs r) :
    Reading mode group closed (gsvs ++ [gsv]) (r.gsvBranch mode gsv) := by
  -- the place of the sentence in the group gives its number
  have hplace : ∀ rest, group = gsvs ++ [gsv] ++ rest → Ready mode r closed gsvs
      ∧ gsv.num = (group.length : ℤ) ∧ gsv.seq = (gsvs.length : ℤ) + 1 := by
    intro rest heq
    rw [append_assoc] at heq
    have hget : group[gsvs.length]? = some gsv := by
      rw [heq, getElem?_append_right (Nat.le_refl _), Nat.sub_self]
      rfl
    obtain ⟨hnum, hseq, -⟩ := hgroup.numbers hget
    exact ⟨h.ready gsv rest heq, hnum, hseq⟩
  constructor
  · intro next rest heq
    obtain ⟨hready, hnum, hseq⟩ := hplace (next :: rest) heq
    refine hready.gsvBranch hseq ?_
    rw [hnum, hseq, heq]
    simp only [length_append, length_cons, length_nil]
    omega
  · intro heq
    obtain ⟨hready, hnum, hseq⟩ := hplace [] (by rw [heq, append_nil])
    subst heq
    refine hready.gsvBranch_last hseq ?_ (hgroup.length_satellites_le hread)
    rw [hnum, hseq, length_append, length_singleton]
    omega

lemma run_group {lines : List (List UInt8)} (hgroup : IsGroup group) (hlines : lines.filterMap (gsvOf mode) = group)
    (h : Ready mode r closed []) :
    ∃ r', run (step mode) r (lines.map (.sentence · false)) = some r' ∧ r'.reports = r.reports
      ∧ Ready mode r' (closed ++ satellites mode group) [] := by
  have hread : ∀ gsv ∈ group, ∃ line, gsvOf mode line = some gsv := by
    intro gsv hmem
    rw [← hlines] at hmem
    obtain ⟨line, -, hline⟩ := mem_filterMap.mp hmem
    exact ⟨line, hline⟩
  obtain ⟨r', hr', hreports, hreading⟩ := run_lines
    (P := fun gsvs r' => r'.reports = r.reports ∧ Reading mode group closed gsvs r')
    (fun n h => ⟨h.1, fun gsv rest heq => (h.2.ready gsv rest heq).sentences n,
      fun heq => (h.2.complete heq).sentences n⟩)
    (fun h => ⟨(reports_gsvBranch _ _).trans h.1, h.2.gsvBranch hgroup hread⟩)
    ⟨rfl, fun _ _ _ => h, fun heq => absurd heq hgroup.1⟩ lines
  exact ⟨r', hr', hreports, hreading.complete hlines.symm⟩

lemma run_others {lines : List (List UInt8)} (hlines : lines.filterMap (gsvOf mode) = [])
    (h : Ready mode r closed []) :
    ∃ r', run (step mode) r (lines.map (.sentence · false)) = some r' ∧ r'.reports = r.reports
      ∧ Ready mode r' closed [] := by
  obtain ⟨r', hr', hreports, hready⟩ := run_lines
    (P := fun gsvs r' => r'.reports = r.reports ∧ (gsvs = [] → Ready mode r' closed []))
    (fun n h => ⟨h.1, fun heq => (h.2 heq).sentences n⟩)
    (fun h => ⟨(reports_gsvBranch _ _).trans h.1, fun heq => absurd heq (concat_ne_nil _ _)⟩)
    ⟨rfl, fun _ => h⟩ lines
  exact ⟨r', hr', hreports, hready hlines⟩

/-- **Group by group.** -/
lemma run_groups {groups : List (List GsvSentence)} (hgroups : ∀ group ∈ groups, IsGroup group) :
    ∀ {lines : List (List UInt8)} {r : SvReader} {closed : List SvFields},
      lines.filterMap (gsvOf mode) = groups.flatten → Ready mode r closed [] →
      ∃ r', run (step mode) r (lines.map (.sentence · false)) = some r' ∧ r'.reports = r.reports
        ∧ Ready mode r' (closed ++ satellites mode groups.flatten) [] := by
  induction groups with
  | nil =>
    intro lines r closed hlines h
    rw [flatten_nil, satellites, flatMap_nil, filter_nil, append_nil]
    exact run_others hlines h
  | cons group groups ih =>
    intro lines r closed hlines h
    obtain ⟨first, others, rfl, hfirst, hothers⟩ := filterMap_eq_append_iff.mp hlines
    obtain ⟨q, hq, hqreports, hqready⟩ := run_group (hgroups group mem_cons_self) hfirst h
    obtain ⟨r', hr', hreports, hready⟩ := ih (fun g hg => hgroups g (mem_cons_of_mem group hg)) hothers hqready
    refine ⟨r', ?_, hreports.trans hqreports, ?_⟩
    · rw [map_append, run_append]
      exact ⟨q, hq, hr'⟩
    · rw [append_assoc] at hready
      rw [flatten_cons, satellites, flatMap_append, filter_append]
      exact hready

/-! ## Epochs and reports -/

lemma parse_true (h : (parseLine mode line).isSome = true) :
    r.parse mode line true = (r.parse mode line false).report true := by
  unfold parse
  rcases hparse : parseLine mode line with _ | _ | gsv
  · rw [hparse] at h
    cases h
  · exact congrArg (report · true) (report_false r).symm
  · exact congrArg (report · true) (report_false _).symm

lemma ready_of_empty (h : r.numSvs = 0) : Ready mode r [] [] := by
  refine ⟨?_, ?_, ?_⟩
  · rw [take_nil]
    exact h
  · rw [satellites, flatMap_nil, filter_nil, append_nil, take_nil]
    show r.numSvs + 0 = 0
    rw [h]
    rfl
  · rw [satellites, flatMap_nil, filter_nil, append_nil, take_nil]
    rfl

/-- **The report** of what the array holds. -/
lemma Ready.report (h : Ready mode r closed []) : (r.report true).numSvs = 0
    ∧ (r.report true).reports.map SvReport.content = r.reports.map SvReport.content
      ++ (if closed.take (maxSvs mode).toNat = [] then []
        else [(((closed.take (maxSvs mode).toNat).length : ℤ), closed.take (maxSvs mode).toNat)]) := by
  have hnum : r.numSvs = (closed.take (maxSvs mode).toNat).length := h.num
  have hentries : (List.range (closed.take (maxSvs mode).toNat).length).map (fun i => (r.svList i).fields)
      = closed.take (maxSvs mode).toNat := by
    have hentries := h.entries
    rwa [satellites, flatMap_nil, filter_nil, append_nil] at hentries
  unfold SvReader.report
  by_cases hempty : closed.take (maxSvs mode).toNat = []
  · have hzero : r.numSvs = 0 := by
      rw [hnum, hempty]
      rfl
    rw [if_neg fun hreport => hreport.1 hzero, if_pos hempty, append_nil]
    exact ⟨hzero, rfl⟩
  · have hlength := length_pos_iff.mpr hempty
    rw [if_pos ⟨by omega, rfl⟩, if_neg hempty]
    refine ⟨rfl, ?_⟩
    rw [map_append, map_singleton, SvReport.content, map_map, hnum, Int.toNat_natCast]
    congr 3

/-- **One epoch.** -/
lemma run_epoch {e : Epoch} (he : e.WellFormed mode) (hr : r.numSvs = 0) :
    ∃ r', run (step mode) r e.acts = some r' ∧ r'.numSvs = 0
      ∧ r'.reports.map SvReport.content = r.reports.map SvReport.content ++ e.expected mode := by
  obtain ⟨⟨groups, hgsvs, hgroups⟩, hlast⟩ := he
  obtain ⟨q', hq', hreports, hready⟩ := run_groups hgroups hgsvs (ready_of_empty hr)
  rw [map_append, run_append] at hq'
  obtain ⟨q, hq, hq'⟩ := hq'
  -- without the end tag the last sentence would have led to `q'`
  cases Option.some.inj hq'
  have hready' : Ready mode (q.parse mode e.last false) (satellites mode groups.flatten) [] := hready.sentences _
  obtain ⟨hzero, hcontent⟩ := hready'.report
  refine ⟨{ q.parse mode e.last true with sentences := (q.parse mode e.last true).sentences + 1 }, ?_, ?_, ?_⟩
  · rw [Epoch.acts, run_append]
    exact ⟨q, hq, rfl⟩
  · rw [parse_true hlast]
    exact hzero
  · rw [parse_true hlast, hcontent, Epoch.expected, Epoch.listed, hgsvs]
    exact congrArg (List.map SvReport.content · ++ _) hreports

/-- **Every epoch is reported as the list of its satellites**, once, or not at all if there are none. -/
theorem epochs_reported (mode : GpsMode) (epochs : List Epoch) (hepochs : ∀ e ∈ epochs, e.WellFormed mode)
    (r : SvReader) (hr : r.numSvs = 0) :
    ∃ r', run (step mode) r (epochs.flatMap Epoch.acts) = some r' ∧ r'.numSvs = 0
      ∧ r'.reports.map SvReport.content
        = r.reports.map SvReport.content ++ epochs.flatMap (Epoch.expected mode) := by
  induction epochs generalizing r with
  | nil => exact ⟨r, rfl, hr, (append_nil _).symm⟩
  | cons e epochs ih =>
    obtain ⟨q, hq, hzero, hcontent⟩ := run_epoch (hepochs e mem_cons_self) hr
    obtain ⟨r', hr', hzero', hcontent'⟩ := ih (fun e' he' => hepochs e' (mem_cons_of_mem e he')) q hzero
    refine ⟨r', ?_, hzero', ?_⟩
    · rw [flatMap_cons, run_append]
      exact ⟨q, hq, hr'⟩
    · rw [hcontent', hcontent, flatMap_cons, append_assoc]

/-- Two groups with another sentence inside the first, and then an epoch without satellites. -/
def twoEpochs : List Epoch :=
  [⟨[asciiBytes "$GPGSV,2,1,05,01,40,083,46,02,17,308,41,12,07,344,39,14,22,228,45*75\r\n",
      asciiBytes "$GPACCURACY,12.5*0B\r\n",
      asciiBytes "$GPGSV,2,2,05,25,11,100,30*4F\r\n",
      asciiBytes "$GLGSV,1,1,01,70,12,200,25*50\r\n"],
      asciiBytes "$GPVTG,,T,,M,0.0,N,0.0,K*4E\r\n"⟩,
    ⟨[], asciiBytes "$GPGSV,1,1,00*79\r\n"⟩]

lemma wellFormed_twoEpochs : ∀ e ∈ twoEpochs, e.WellFormed .gps := by
  -- the groups are the first two sentences and the rest, if there is one
  have hgroups : ∀ e ∈ twoEpochs,
      (e.gsvs .gps = ([(e.gsvs .gps).take 2, (e.gsvs .gps).drop 2].filter (· ≠ [])).flatten
        ∧ ∀ group ∈ [(e.gsvs .gps).take 2, (e.gsvs .gps).drop 2].filter (· ≠ []), IsGroup group)
      ∧ (parseLine .gps e.last).isSome = true := by
    decide +kernel
  exact fun e he => ⟨⟨_, (hgroups e he).1⟩, (hgroups e he).2⟩

theorem epochs_reported_twoEpochs :
    (twoEpochs.flatMap (Epoch.expected .gps)).map (fun rep => (rep.1, rep.2.map (·.id))) = [(6, [1, 2, 12, 14, 25, 70])]
    ∧ ∃ r', run (step .gps) init (twoEpochs.flatMap Epoch.acts) = some r' ∧ r'.numSvs = 0
      ∧ r'.reports.map SvReport.content
        = init.reports.map SvReport.content ++ twoEpochs.flatMap (Epoch.expected .gps) :=
  ⟨by decide +kernel, epochs_reported .gps twoEpochs wellFormed_twoEpochs init rfl⟩

def galileoEpoch : Epoch := ⟨[], asciiBytes "$GAGSV,1,1,01,05,40,083,46*5E\r\n"⟩

/-- Its groups, whatever the constellation, are well formed, and the number of its satellite is one that GPS mode
accepts; the sentence is skipped. -/
theorem galileo_not_listed : galileoEpoch.WellFormed .gnss
    ∧ (satellites .gps (galileoEpoch.gsvs .gnss)).map (·.id) = [5]
    ∧ ∃ r, run (step .gps) init galileoEpoch.acts = some r ∧ r.reports = [] := by
  have hgroups : (∀ group ∈ [galileoEpoch.gsvs .gnss], IsGroup group)
      ∧ (parseLine .gnss galileoEpoch.last).isSome = true := by
    decide +kernel
  have hreports : (run (step .gps) init galileoEpoch.acts).map (·.reports) = some [] := by decide +kernel
  refine ⟨⟨⟨[galileoEpoch.gsvs .gnss], ?_, hgroups.1⟩, hgroups.2⟩, by decide +kernel, ?_⟩
  · exact (append_nil _).symm
  · exact Option.map_eq_some_iff.mp hreports

end SvReader

end Hal
