import DeviceHal.Core.Keyed
import DeviceHal.Core.Reads

/-!
# Tokens

`strtok` cuts a string into tokens where it lies: it puts a zero in the place of the delimiter behind a token, and keeps
to itself where it goes on.

* `runs` — the maximal runs of elements that are no delimiters; `firstRun` finds the first of them.
* `Ahead` — what `strtok` has still to go through; `Token` — a token that it has cut, with its zero, which lies before
  what is ahead.
* **`strtok_nil`**, **`strtok_cons`** — a call returns the first run of what is ahead, the runs behind it are then
  ahead, and the tokens cut before stay as they are.
-/

namespace Hal

open List

/-! ## Runs -/

section Runs

variable {α : Type*} {isDelim : α → Bool} {w : List α} {d : α}

/-- The maximal runs of elements that are no delimiters, in order. -/
def runs (isDelim : α → Bool) (xs : List α) : List (List α) := (xs.splitOnP isDelim).filter fun w => !w.isEmpty

lemma runs_nil : runs isDelim [] = [] := by
  rw [runs, splitOnP_nil, filter_cons_of_neg (by simp), filter_nil]

lemma runs_append_cons (hw : ∀ c ∈ w, isDelim c = false) (hd : isDelim d = true) (xs : List α) :
    runs isDelim (w ++ d :: xs) = if w.isEmpty then runs isDelim xs else w :: runs isDelim xs := by
  rw [runs, splitOnP_append_cons_of_forall_mem hw d hd, filter_cons]
  cases w with
  | nil => rfl
  | cons c w => rfl

lemma runs_append_delims {gap : List α} (hgap : ∀ c ∈ gap, isDelim c = true) (xs : List α) :
    runs isDelim (gap ++ xs) = runs isDelim xs := by
  induction gap with
  | nil => rfl
  | cons d gap ih =>
    have hnil : ∀ c ∈ ([] : List α), isDelim c = false := fun c hc => absurd hc not_mem_nil
    have hcons : runs isDelim (d :: (gap ++ xs)) = runs isDelim (gap ++ xs) :=
      runs_append_cons hnil (hgap d mem_cons_self) (gap ++ xs)
    rw [cons_append, hcons, ih fun c hc => hgap c (mem_cons_of_mem d hc)]

lemma runs_word (hw : ∀ c ∈ w, isDelim c = false) (hne : w ≠ []) : runs isDelim w = [w] := by
  rw [runs, splitOnP_eq_singleton hw, filter_cons_of_pos (by simpa using hne), filter_nil]

lemma exists_prefix (p : α → Bool) (xs : List α) :
    ∃ ys zs, xs = ys ++ zs ∧ (∀ c ∈ ys, p c = true) ∧ ∀ c ∈ zs.head?, p c = false := by
  refine ⟨xs.takeWhile p, xs.dropWhile p, takeWhile_append_dropWhile.symm, fun c => mem_takeWhile_imp, ?_⟩
  intro c hc
  have hhead := head?_dropWhile_not p xs
  rw [Option.mem_def.mp hc] at hhead
  exact hhead

/-- Where the first run of a list is: nowhere, or up to the end or a delimiter. -/
inductive FirstRun (isDelim : α → Bool) : List α → Prop
  | none (gap : List α) (hgap : ∀ c ∈ gap, isDelim c = true) : FirstRun isDelim gap
  | some (gap w rest : List α) (hgap : ∀ c ∈ gap, isDelim c = true) (hw : ∀ c ∈ w, isDelim c = false) (hne : w ≠ [])
      (hrest : ∀ d ∈ rest.head?, isDelim d = true) : FirstRun isDelim (gap ++ (w ++ rest))

lemma firstRun (isDelim : α → Bool) (xs : List α) : FirstRun isDelim xs := by
  obtain ⟨gap, ys, rfl, hgap, hys⟩ := exists_prefix isDelim xs
  obtain ⟨w, rest, rfl, hw, hrest⟩ := exists_prefix (fun c => !isDelim c) ys
  have hrest : ∀ d ∈ rest.head?, isDelim d = true := fun d hd => by simpa using hrest d hd
  cases w with
  | cons c w => exact .some gap (c :: w) rest hgap (fun c' hc' => by simpa using hw c' hc') (cons_ne_nil c w) hrest
  | nil =>
    cases rest with
    | nil =>
      rw [nil_append, append_nil]
      exact .none gap hgap
    | cons d rest => exact absurd ((hys d rfl).symm.trans (hrest d rfl)) Bool.false_ne_true

lemma runs_some {gap rest : List α} (hgap : ∀ c ∈ gap, isDelim c = true) (hw : ∀ c ∈ w, isDelim c = false)
    (hne : w ≠ []) (hrest : ∀ d ∈ rest.head?, isDelim d = true) : runs isDelim (gap ++ (w ++ rest)) = w :: runs isDelim rest.tail := by
  rw [runs_append_delims hgap]
  cases rest with
  | nil => rw [append_nil, runs_word hw hne, tail_nil, runs_nil]
  | cons d xs => rw [runs_append_cons hw (hrest d rfl), if_neg (by simpa using hne), tail_cons]

end Runs

/-! ## The function -/

/-- The object that is cut, and where `strtok` goes on when it is given a null pointer. -/
structure Strtok where
  memory : List UInt8
  last : Option ℕ
deriving DecidableEq

/-- Goes from `p` on to the first byte that stops it, along the bytes that lie there. -/
def findFrom (stop : UInt8 → Bool) : List UInt8 → ℕ → Except Fault ℕ
  | [], p => .error (.load p 1 p)
  | c :: cs, p => if stop c then .ok p else findFrom stop cs (p + 1)

/-- From a pointer on: the delimiters are skipped, and if the string does not end there, the token goes on to the next
delimiter or to its end. -/
def strtokFrom (delim memory : List UInt8) (p : ℕ) : Except Fault (Option ℕ × Strtok) := do
  let tok ← findFrom (fun c => c ∉ delim) (memory.drop p) p
  let c ← loadByte memory tok
  if c = 0 then return (none, ⟨memory, none⟩)
  else do
    let stop ← findFrom (fun c => c = 0 ∨ c ∈ delim) (memory.drop (tok + 1)) (tok + 1)
    let c ← loadByte memory stop
    if c = 0 then return (some tok, ⟨memory, none⟩)
    else do
      let memory ← store memory stop [0]
      return (some tok, ⟨memory, some (stop + 1)⟩)

/-- `strtok`, with the delimiters without the zero at their end. -/
def strtok (s : Option ℕ) (delim : List UInt8) (t : Strtok) : Except Fault (Option ℕ × Strtok) :=
  match s.or t.last with
  | none => .ok (none, t)
  | some p => strtokFrom delim t.memory p

/-! ## What is ahead, and what is cut -/

/-- The string that is still to be gone through from a position on; without a position there is none. -/
def Ahead (memory : List UInt8) (start : Option ℕ) (s : List UInt8) : Prop :=
  0 ∉ s ∧ match start with
    | none => s = []
    | some p => LieAt memory p (s ++ [0])

/-- A token with its zero, before what is ahead. -/
structure Token (memory : List UInt8) (start : Option ℕ) (q : ℕ) (w : List UInt8) : Prop where
  lies : LieAt memory q (w ++ [0])
  zero_notMem : 0 ∉ w
  before : ∀ p ∈ start, q + w.length < p

lemma Token.loadCString {memory : List UInt8} {start : Option ℕ} {q : ℕ} {w : List UInt8} (h : Token memory start q w) :
    loadCString memory q = .ok w := by
  obtain ⟨⟨before, after, rfl, rfl⟩, hzero, -⟩ := h
  rw [Hal.loadCString, drop_left, cstring_of_mem (by simp), append_assoc]
  exact congrArg Except.ok (takeWhile_ne_append hzero after)

section From

variable {delim memory gap w after : List UInt8} {d : UInt8} {p : ℕ}

lemma findFrom_append {stop : UInt8 → Bool} {xs : List UInt8} (hxs : ∀ c ∈ xs, stop c = false) (hd : stop d = true)
    (p : ℕ) : findFrom stop (xs ++ d :: after) p = .ok (p + xs.length) := by
  induction xs generalizing p with
  | nil => exact if_pos hd
  | cons c xs ih =>
    have hc := hxs c mem_cons_self
    rw [cons_append, findFrom, hc, if_neg Bool.false_ne_true,
      ih fun c' hc' => hxs c' (mem_cons_of_mem c hc'), length_cons]
    congr 1
    omega

namespace LieAt

variable {xs bs : List UInt8} {q : ℕ}

lemma findFrom {stop : UInt8 → Bool} (h : LieAt memory p (xs ++ d :: after)) (hxs : ∀ c ∈ xs, stop c = false)
    (hd : stop d = true) : findFrom stop (memory.drop p) p = .ok (p + xs.length) := by
  obtain ⟨before, rest, rfl, rfl⟩ := h
  rw [drop_left, append_assoc, cons_append, findFrom_append hxs hd]

lemma loadByte (h : LieAt memory p (xs ++ d :: after)) : loadByte memory (p + xs.length) = .ok d := by
  obtain ⟨before, rest, rfl, hlen⟩ := h.right
  rw [Hal.loadByte, getElem?_append_right (Nat.le_of_eq hlen), hlen, Nat.sub_self]
  rfl

lemma front {ys ys' : List UInt8} (h : LieAt (xs ++ ys) q bs) (hle : q + bs.length ≤ xs.length) :
    LieAt (xs ++ ys') q bs := by
  obtain ⟨before, after, heq, rfl⟩ := h
  have hxs : xs = before ++ (bs ++ after.take (xs.length - (before.length + bs.length))) := by
    have htake := congrArg (List.take xs.length) heq
    rw [take_left, ← append_assoc, take_append, length_append, take_of_length_le (by simpa), append_assoc] at htake
    exact htake
  refine ⟨before, after.take (xs.length - (before.length + bs.length)) ++ ys', ?_, rfl⟩
  nth_rewrite 1 [hxs]
  simp

lemma store (h : LieAt memory p (xs ++ d :: after)) (d' : UInt8) :
    ∃ memory', store memory (p + xs.length) [d'] = .ok memory' ∧ LieAt memory' p (xs ++ d' :: after)
      ∧ ∀ q bs, q + bs.length ≤ p + xs.length → LieAt memory q bs → LieAt memory' q bs := by
  obtain ⟨before, rest, rfl, rfl⟩ := h
  have hmem : ∀ c, before ++ (xs ++ c :: after ++ rest) = before ++ xs ++ c :: (after ++ rest) := by simp
  refine ⟨before ++ (xs ++ d' :: after ++ rest), ?_, ⟨before, rest, rfl, rfl⟩, fun q bs hle hlie => ?_⟩
  · have hfits : (before ++ xs).length + [d'].length ≤ (before ++ xs ++ d :: (after ++ rest)).length := by
      simp only [length_append, length_cons, length_nil]
      omega
    rw [hmem, hmem, ← length_append, Hal.store, if_pos hfits, patch, take_left, ← drop_drop, drop_left, append_assoc]
    rfl
  · rw [hmem] at hlie ⊢
    exact hlie.front (by rwa [length_append])

end LieAt

lemma strtokFrom_none (h : LieAt memory p (gap ++ [0])) (hdelim : 0 ∉ delim) (hgap : ∀ c ∈ gap, c ∈ delim) :
    strtokFrom delim memory p = .ok (none, ⟨memory, none⟩) := by
  rw [strtokFrom, h.findFrom (fun c hc => decide_eq_false (not_not_intro (hgap c hc))) (decide_eq_true hdelim)]
  show (loadByte memory (p + gap.length) >>= _) = _
  rw [h.loadByte]
  rfl

lemma strtokFrom_word (h : LieAt memory p (gap ++ (w ++ d :: after))) (hgap : ∀ c ∈ gap, c ∈ delim)
    (hw : ∀ c ∈ w, c ∉ delim) (hzero : 0 ∉ w) (hne : w ≠ []) (hd : d = 0 ∨ d ∈ delim) :
    strtokFrom delim memory p
      = if d = 0 then .ok (some (p + gap.length), ⟨memory, none⟩)
        else store memory (p + gap.length + w.length) [0] >>= fun memory =>
          .ok (some (p + gap.length), ⟨memory, some (p + gap.length + w.length + 1)⟩) := by
  obtain ⟨c, w, rfl⟩ := exists_cons_of_ne_nil hne
  obtain ⟨hc, hw⟩ := forall_mem_cons.mp hw
  rw [mem_cons, not_or] at hzero
  have hword : LieAt memory (p + gap.length) ([c] ++ (w ++ d :: after)) := h.right
  have hgoes : ∀ c ∈ w, decide (c = 0 ∨ c ∈ delim) = false := by
    refine fun c hc => decide_eq_false ?_
    rintro (rfl | hmem)
    · exact hzero.2 hc
    · exact hw c hc hmem
  have hend : p + gap.length + (c :: w).length = p + gap.length + [c].length + w.length := by
    rw [length_cons, length_singleton]
    omega
  rw [strtokFrom, h.findFrom (fun c hc => decide_eq_false (not_not_intro (hgap c hc))) (decide_eq_true hc)]
  show (loadByte memory (p + gap.length) >>= _) = _
  rw [h.loadByte]
  show (if c = 0 then _ else _) = _
  rw [if_neg (Ne.symm hzero.1)]
  show (findFrom _ (memory.drop (p + gap.length + [c].length)) (p + gap.length + [c].length) >>= _) = _
  rw [hword.right.findFrom hgoes (decide_eq_true hd)]
  show (loadByte memory (p + gap.length + [c].length + w.length) >>= _) = _
  rw [hword.right.loadByte, hend]
  rfl

end From

/-! ## A call -/

section Call

variable {delim rem : List UInt8} {s : Option ℕ} {t : Strtok}

/-- **Without a run ahead** there is no token. -/
theorem strtok_nil (hdelim : 0 ∉ delim) (hahead : Ahead t.memory (s.or t.last) rem)
    (hruns : runs (fun c => c ∈ delim) rem = []) : strtok s delim t = .ok (none, ⟨t.memory, none⟩) := by
  obtain ⟨-, hahead⟩ := hahead
  cases hstart : s.or t.last with
  | none =>
    obtain ⟨memory, last⟩ := t
    obtain rfl : last = none := (Option.or_eq_none_iff.mp hstart).2
    rw [strtok, hstart]
  | some p =>
    rw [hstart] at hahead
    cases firstRun (fun c => decide (c ∈ delim)) rem with
    | none _ hgap =>
      rw [strtok, hstart]
      exact strtokFrom_none hahead hdelim fun c hc => of_decide_eq_true (hgap c hc)
    | some gap w rest hgap hw hne hrest =>
      rw [runs_some hgap hw hne hrest] at hruns
      cases hruns

/-- **With a run ahead** it is the token. -/
theorem strtok_cons {w : List UInt8} {ws : List (List UInt8)}
    (hahead : Ahead t.memory (s.or t.last) rem) (hruns : runs (fun c => c ∈ delim) rem = w :: ws) :
    ∃ q t' rem', strtok s delim t = .ok (some q, t') ∧ Ahead t'.memory t'.last rem'
      ∧ runs (fun c => c ∈ delim) rem' = ws ∧ Token t'.memory t'.last q w
      ∧ ∀ q' w', Token t.memory (s.or t.last) q' w' → Token t'.memory t'.last q' w' := by
  obtain ⟨hzero, hahead⟩ := hahead
  cases hstart : s.or t.last with
  | none =>
    rw [hstart] at hahead
    rw [show rem = [] from hahead, runs_nil] at hruns
    cases hruns
  | some p =>
    rw [hstart] at hahead
    have hstrtok : strtok s delim t = strtokFrom delim t.memory p := by rw [strtok, hstart]
    cases firstRun (fun c => decide (c ∈ delim)) rem with
    | none _ hgap =>
      have hnil := runs_append_delims hgap []
      rw [append_nil, hruns, runs_nil] at hnil
      cases hnil
    | some gap w' rest hgap hw hne hrest =>
      rw [runs_some hgap hw hne hrest] at hruns
      obtain ⟨rfl, rfl⟩ := List.cons.inj hruns
      rw [mem_append, mem_append, not_or, not_or] at hzero
      obtain ⟨-, hzero, hrest₀⟩ := hzero
      replace hahead : LieAt t.memory p (gap ++ (w' ++ (rest ++ [0]))) := by simpa using hahead
      have hgap' : ∀ c ∈ gap, c ∈ delim := fun c hc => of_decide_eq_true (hgap c hc)
      have hw' : ∀ c ∈ w', c ∉ delim := fun c hc => of_decide_eq_false (hw c hc)
      have hlies : LieAt t.memory (p + gap.length) (w' ++ (rest ++ [0])) := hahead.right
      cases rest with
      | nil =>
        refine ⟨p + gap.length, ⟨t.memory, none⟩, [], ?_, ⟨not_mem_nil, rfl⟩, rfl,
          ⟨hlies, hzero, fun p hp => nomatch hp⟩, ?_⟩
        · rw [hstrtok, strtokFrom_word hahead hgap' hw' hzero hne (Or.inl rfl), if_pos rfl]
        · exact fun q' w' htoken => ⟨htoken.lies, htoken.zero_notMem, fun p hp => nomatch hp⟩
      | cons d xs =>
        rw [mem_cons, not_or] at hrest₀
        -- the delimiter behind the token becomes its zero
        obtain ⟨memory', hstore, hlies', hbefore⟩ := hlies.store 0
        replace hlies' : LieAt memory' (p + gap.length) (w' ++ [0] ++ (xs ++ [0])) := by simpa using hlies'
        refine ⟨p + gap.length, ⟨memory', some (p + gap.length + w'.length + 1)⟩, xs, ?_, ⟨hrest₀.2, ?_⟩, rfl,
          ⟨?_, hzero, ?_⟩, ?_⟩
        · rw [hstrtok, strtokFrom_word hahead hgap' hw' hzero hne (Or.inr (of_decide_eq_true (hrest d rfl))),
            if_neg (Ne.symm hrest₀.1), hstore]
          rfl
        · have hahead' := hlies'.right
          rwa [length_append, ← Nat.add_assoc] at hahead'
        · exact hlies'.left
        · rintro p ⟨⟩
          omega
        · intro q' w'' htoken
          have hlt := htoken.before p rfl
          refine ⟨hbefore q' _ ?_ htoken.lies, htoken.zero_notMem, ?_⟩
          · rw [length_append, length_singleton]
            omega
          · rintro p ⟨⟩
            omega

end Call

end Hal
