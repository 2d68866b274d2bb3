import Mathlib.Data.List.Basic
import Mathlib.Data.Int.Basic

/-!
# NMEA framing

`nmea_reader_addc` collects the bytes of a line in `in` and gives a complete line to
`nmea_reader_parse`.  A line that does not fit is skipped to its newline with the flag `overflow`.

What it should do is `linesOf` and a filter: every line of at most `NMEA_MAX_SIZE` bytes is parsed,
every other one is dropped.

**The defect.**  The byte that finds the buffer full is thrown away unseen.  If it is the newline, that of a
line of exactly `NMEA_MAX_SIZE + 1` bytes, the flag is set for a line that is already over, and the
*next* line is skipped.  `framing_correct_iff` says that this is all that can go wrong: the position is
always in range, and the right lines are parsed iff no line that should be parsed is skipped so.
-/

namespace Hal

open List Function

/-- `NMEA_MAX_SIZE`; the buffer `in` has one byte more. -/
def nmeaMaxSize : ℕ := 128

def newline : UInt8 := 10

/-- `NmeaReader`, as far as framing goes.  `parsed` is the calls of `nmea_reader_parse`, each with the
bytes of `in` up to `pos`. -/
structure NmeaReader where
  pos : ℤ
  overflow : Bool
  inBuf : ℕ → UInt8
  parsed : List (List UInt8)

namespace NmeaReader

/-- `nmea_reader_init`. -/
def init : NmeaReader := ⟨0, false, fun _ => 0, []⟩

def line (r : NmeaReader) : List UInt8 := (List.range r.pos.toNat).map r.inBuf

/-- `nmea_reader_addc`. -/
def addc (r : NmeaReader) (c : UInt8) : NmeaReader :=
  if r.overflow then { r with overflow := decide (c ≠ newline) }
  else if (nmeaMaxSize : ℤ) ≤ r.pos ∨ r.pos < 0 then { r with overflow := true, pos := 0 }
  else
    let r := { r with inBuf := update r.inBuf r.pos.toNat c, pos := r.pos + 1 }
    if c = newline then { r with parsed := r.parsed ++ [r.line], pos := 0 } else r

def feed (r : NmeaReader) (cs : List UInt8) : NmeaReader := cs.foldl addc r

end NmeaReader

/-! ## What it is for -/

/-- The complete lines of a stream, newlines included, where `acc` has already been read of the
first. -/
def linesFrom : List UInt8 → List UInt8 → List (List UInt8)
  | _, [] => []
  | acc, c :: cs =>
    if c = newline then (acc ++ [c]) :: linesFrom [] cs else linesFrom (acc ++ [c]) cs

def linesOf (cs : List UInt8) : List (List UInt8) := linesFrom [] cs

/-- No line that should be parsed is skipped.  The flag says whether the next line is skipped: it is after
a line of exactly `NMEA_MAX_SIZE + 1` bytes that was not skipped itself. -/
def NoneSkipped : Bool → List (List UInt8) → Prop
  | _, [] => True
  | true, l :: ls => nmeaMaxSize < l.length ∧ NoneSkipped false ls
  | false, l :: ls => NoneSkipped (decide (l.length = nmeaMaxSize + 1)) ls

def framed : Bool → List (List UInt8) → List (List UInt8)
  | _, [] => []
  | true, _ :: ls => framed false ls
  | false, l :: ls =>
    if l.length ≤ nmeaMaxSize then l :: framed false ls
    else framed (decide (l.length = nmeaMaxSize + 1)) ls

lemma framed_sublist (ls : List (List UInt8)) (skip : Bool) :
    (framed skip ls).Sublist (ls.filter fun l => l.length ≤ nmeaMaxSize) := by
  induction ls generalizing skip with
  | nil => exact List.Sublist.refl []
  | cons l ls ih =>
    by_cases hlen : l.length ≤ nmeaMaxSize
    · rw [filter_cons_of_pos (by simpa using hlen)]
      cases skip with
      | true => exact (ih false).cons l
      | false =>
        simp only [framed, if_pos hlen]
        exact (ih false).cons_cons l
    · rw [filter_cons_of_neg (by simpa using hlen)]
      cases skip with
      | true => exact ih false
      | false =>
        simp only [framed, if_neg hlen]
        exact ih _

/-- **The reader's lines are the right ones** iff none is skipped. -/
lemma framed_eq_iff (ls : List (List UInt8)) (skip : Bool) :
    framed skip ls = ls.filter (fun l => l.length ≤ nmeaMaxSize) ↔ NoneSkipped skip ls := by
  induction ls generalizing skip with
  | nil => simp [framed, NoneSkipped]
  | cons l ls ih =>
    by_cases hlen : l.length ≤ nmeaMaxSize
    · have hone : decide (l.length = nmeaMaxSize + 1) = false := by
        simp only [decide_eq_false_iff_not]
        omega
      rw [filter_cons_of_pos (by simpa using hlen)]
      cases skip with
      | true =>
        -- one line too few, so the lists differ in length
        simp only [framed, NoneSkipped]
        refine iff_of_false (fun heq => ?_) fun h => absurd h.1 (by omega)
        have hsub := (framed_sublist ls false).length_le
        rw [heq, length_cons] at hsub
        omega
      | false =>
        simp only [framed, NoneSkipped, if_pos hlen, hone, List.cons.injEq, true_and]
        exact ih false
    · rw [filter_cons_of_neg (by simpa using hlen)]
      cases skip with
      | true =>
        simp only [framed, NoneSkipped]
        rw [ih false]
        exact ⟨fun h => ⟨by omega, h⟩, fun h => h.2⟩
      | false =>
        simp only [framed, NoneSkipped, if_neg hlen]
        exact ih _

/-! ## The reader -/

namespace NmeaReader

/-- The reader after `acc` of a line: skipping, or with what it has read in the buffer. -/
def Reading (skip : Bool) (acc : List UInt8) (r : NmeaReader) : Prop :=
  if skip = true ∨ nmeaMaxSize < acc.length then r.overflow = true ∧ r.pos = 0
  else r.overflow = false ∧ r.pos = acc.length ∧ r.line = acc

lemma reading_init : Reading false [] init := by
  exact ⟨rfl, rfl, rfl⟩

variable {skip : Bool} {acc : List UInt8} {r : NmeaReader}

lemma Reading.pos_bounds (h : Reading skip acc r) : 0 ≤ r.pos ∧ r.pos ≤ nmeaMaxSize := by
  unfold Reading at h
  split_ifs at h with hskip
  · omega
  · omega

lemma line_update (hpos : r.pos = acc.length) (hline : r.line = acc)
    (c : UInt8) (overflow : Bool) (parsed : List (List UInt8)) :
    line ⟨r.pos + 1, overflow, update r.inBuf r.pos.toNat c, parsed⟩ = acc ++ [c] := by
  have hsucc : (r.pos + 1).toNat = acc.length + 1 := by omega
  have hnat : r.pos.toNat = acc.length := by omega
  simp only [line, hsucc, hnat, range_succ, map_append, map_cons, map_nil, update_self]
  have hold : (List.range acc.length).map (update r.inBuf acc.length c)
      = (List.range acc.length).map r.inBuf := by
    refine map_congr_left fun i hi => update_of_ne ?_ _ _
    exact Nat.ne_of_lt (mem_range.mp hi)
  rw [hold, ← hnat]
  exact congrArg (· ++ [c]) hline

/-- **A byte inside a line.** -/
lemma Reading.addc_of_ne (h : Reading skip acc r)
    {c : UInt8} (hc : c ≠ newline) : Reading skip (acc ++ [c]) (r.addc c) ∧ (r.addc c).parsed = r.parsed := by
  unfold Reading at h
  have hlen : (acc ++ [c]).length = acc.length + 1 := by simp
  split_ifs at h with hskip
  · -- still skipping
    have hskip' : skip = true ∨ nmeaMaxSize < (acc ++ [c]).length := hskip.imp_right (by omega)
    simp only [addc, h.1, if_true, Reading, if_pos hskip', h.2, hc, ne_eq, not_false_eq_true, decide_true, and_self]
  · rcases h with ⟨hover, hpos, hline⟩
    rw [not_or, not_lt] at hskip
    by_cases hfull : acc.length = nmeaMaxSize
    · have hskip' : skip = true ∨ nmeaMaxSize < (acc ++ [c]).length := .inr (by omega)
      have hguard : (nmeaMaxSize : ℤ) ≤ r.pos ∨ r.pos < 0 := .inl (by omega)
      simp only [addc, hover, Bool.false_eq_true, if_false, if_pos hguard, Reading, if_pos hskip', and_self]
    · have hskip' : ¬ (skip = true ∨ nmeaMaxSize < (acc ++ [c]).length) := by
        rw [not_or]
        exact ⟨hskip.1, by omega⟩
      have hguard : ¬ ((nmeaMaxSize : ℤ) ≤ r.pos ∨ r.pos < 0) := by omega
      simp only [addc, hover, Bool.false_eq_true, if_false, if_neg hguard, if_neg hc, Reading,
        if_neg hskip', line_update hpos hline, true_and, and_true]
      omega

/-- **The newline.**  The next line is skipped if this one left no room for it and no byte more. -/
lemma Reading.addc_newline (h : Reading skip acc r) :
    Reading (!skip && decide (acc.length = nmeaMaxSize)) [] (r.addc newline)
      ∧ (r.addc newline).parsed = r.parsed
        ++ if skip = false ∧ acc.length < nmeaMaxSize then [acc ++ [newline]] else [] := by
  have hfresh : ∀ {b : Bool}, b = false → ¬ (b = true ∨ nmeaMaxSize < ([] : List UInt8).length) := by
    rintro b rfl
    simp
  unfold Reading at h
  split_ifs at h with hskip
  · -- the end of a line that is skipped
    have hnot : ¬ (skip = false ∧ acc.length < nmeaMaxSize) := by
      rintro ⟨rfl, hlt⟩
      exact absurd (hskip.resolve_left (by simp)) (by omega)
    have hnext : (!skip && decide (acc.length = nmeaMaxSize)) = false := by
      cases skip with
      | true => rfl
      | false =>
        have hlt := hskip.resolve_left (by simp)
        simp only [Bool.not_false, Bool.true_and, decide_eq_false_iff_not]
        omega
    rw [hnext, if_neg hnot, append_nil, Reading, if_neg (hfresh rfl)]
    simp [addc, h.1, h.2, line]
  · rcases h with ⟨hover, hpos, hline⟩
    rw [not_or, not_lt, Bool.not_eq_true] at hskip
    rcases hskip with ⟨rfl, hle⟩
    by_cases hfull : acc.length = nmeaMaxSize
    · have hguard : (nmeaMaxSize : ℤ) ≤ r.pos ∨ r.pos < 0 := .inl (by omega)
      rw [if_neg (by omega), append_nil, Reading, if_pos (.inl (by simp [hfull]))]
      simp only [addc, hover, Bool.false_eq_true, if_false, if_pos hguard, and_self]
    · have hguard : ¬ ((nmeaMaxSize : ℤ) ≤ r.pos ∨ r.pos < 0) := by omega
      rw [if_pos ⟨rfl, by omega⟩, Reading, if_neg (hfresh (by simp [hfull]))]
      simp only [addc, hover, Bool.false_eq_true, if_false, if_neg hguard, if_true,
        line_update hpos hline, and_true, true_and]
      exact ⟨rfl, rfl⟩

/-- **A stream**: what is parsed is what `framed` says of its lines. -/
lemma Reading.feed (cs : List UInt8) (h : Reading skip acc r) :
    (0 ≤ (r.feed cs).pos ∧ (r.feed cs).pos ≤ nmeaMaxSize)
      ∧ (r.feed cs).parsed = r.parsed ++ framed skip (linesFrom acc cs) := by
  induction cs generalizing skip acc r with
  | nil => exact ⟨h.pos_bounds, by simp [NmeaReader.feed, linesFrom, framed]⟩
  | cons c cs ih =>
    show _ ∧ ((r.addc c).feed cs).parsed = _
    by_cases hc : c = newline
    · subst hc
      rcases h.addc_newline with ⟨hreading, hparsed⟩
      rcases ih hreading with ⟨hbounds, hfeed⟩
      refine ⟨hbounds, ?_⟩
      rw [hfeed, hparsed, linesFrom, if_pos rfl, append_assoc]
      have hlen : (acc ++ [newline]).length = acc.length + 1 := by simp
      cases skip with
      | true => simp [framed]
      | false =>
        simp only [framed, Bool.not_false, Bool.true_and, hlen, Nat.add_right_cancel_iff]
        by_cases hlt : acc.length < nmeaMaxSize
        · have hne : acc.length ≠ nmeaMaxSize := by omega
          rw [if_pos ⟨trivial, hlt⟩, if_pos (by omega)]
          simp [hne]
        · rw [if_neg (by simp [hlt]), if_neg (by omega), nil_append]
    · rcases h.addc_of_ne hc with ⟨hreading, hparsed⟩
      rcases ih hreading with ⟨hbounds, hfeed⟩
      refine ⟨hbounds, ?_⟩
      rw [hfeed, hparsed, linesFrom, if_neg hc]

/-- **The framing is right iff no line is skipped that should be parsed.** -/
theorem framing_correct_iff (cs : List UInt8) :
    ((0 ≤ (init.feed cs).pos ∧ (init.feed cs).pos ≤ nmeaMaxSize)
      ∧ (init.feed cs).parsed = (linesOf cs).filter fun l => l.length ≤ nmeaMaxSize)
      ↔ NoneSkipped false (linesOf cs) := by
  rcases reading_init.feed cs with ⟨hbounds, hparsed⟩
  rw [hparsed, ← framed_eq_iff]
  exact ⟨fun h => h.2, fun h => ⟨hbounds, h⟩⟩

/-- The line of 128 `A` and a newline, then a short one: the short one is skipped. -/
theorem next_line_skipped :
    (init.feed (List.replicate 128 65 ++ [newline, 66, newline])).parsed = []
      ∧ (linesOf (List.replicate 128 65 ++ [newline, 66, newline])).filter
        (fun l => l.length ≤ nmeaMaxSize) = [[66, newline]] := by
  refine ⟨by decide +kernel, by decide +kernel⟩

end NmeaReader

end Hal
