import DeviceHal.Core.Loops
import DeviceHal.Gps.SvStatus

/-!
# The tokenizer of NMEA sentences

`nmea_tokenizer_init` moves two pointers over a sentence: it passes the `$`, takes the end of the line and
the checksum off, and then goes from comma to comma, keeping where each field begins and ends.
`nmea_tokenizer_get` gives a field out of what was kept.  The pointers are offsets into the sentence here,
and a read that leaves it is a `Fault`.

What it is for is said by `nmeaBody` and `List.splitOn`.  The tokenizer does not keep an empty last field;
as fields that were not kept are answered with an empty token, that makes no difference.  The parser of
satellites is modelled on lists of fields; `nmeaTokenizer_refines_lists` says that those are the same fields.

* `skipDollar_ok`, `trimNewline_ok`, `trimChecksum_ok` — between the pointers is what the specification
  leaves of the sentence.
* **`nmeaTokenizer_fields`** — every field by its index.
-/

namespace Hal

open List hiding Vector

namespace Nmea

/-- A `Token`: a part of the sentence, or the empty string that stands for a missing field. -/
inductive Token where
  | dummy
  | part (p e : ℕ)

def Token.chars (sentence : List UInt8) : Token → List UInt8
  | dummy => []
  | part p e => slice sentence p (e - p)

def maxNmeaTokens : ℕ := 24

structure NmeaTokenizer where
  count : ℕ
  tokens : Vector Token maxNmeaTokens

/-- `memchr(p, c, n)`. -/
def memchr (sentence : List UInt8) (c : UInt8) (p : ℕ) : ℕ → Except Fault (Option ℕ)
  | 0 => .ok none
  | n + 1 => do
    let b ← readAt sentence p
    if b = c then .ok (some p) else memchr sentence c (p + 1) n

def skipDollar (sentence : List UInt8) (p e : ℕ) : Except Fault ℕ :=
  if p < e then do
    let c ← readAt sentence p
    .ok (if c = 36 then p + 1 else p)
  else .ok p

def trimNewline (sentence : List UInt8) (p e : ℕ) : Except Fault ℕ :=
  if e > p then do
    let c ← readAt sentence (e - 1)
    if c = 10 then
      let e := e - 1
      if e > p then do
        let c ← readAt sentence (e - 1)
        .ok (if c = 13 then e - 1 else e)
      else .ok e
    else .ok e
  else .ok e

/-- Get rid of checksum at the end of the sentence. -/
def trimChecksum (sentence : List UInt8) (p e : ℕ) : Except Fault ℕ :=
  if e ≥ p + 3 then do
    let c ← readAt sentence (e - 3)
    .ok (if c = 42 then e - 3 else e)
  else .ok e

/-- A token is kept as long as there is room. -/
def NmeaTokenizer.keep (t : NmeaTokenizer) (token : Token) : Except Fault NmeaTokenizer :=
  if t.count < maxNmeaTokens then do
    let tokens ← writeAt t.tokens t.count token
    .ok ⟨t.count + 1, tokens⟩
  else .ok t

/-- The `while` loop, at most `fuel` times its condition; `none` if that is not enough. -/
def tokenLoop (sentence : List UInt8) (e : ℕ) : ℕ → ℕ → NmeaTokenizer → Except Fault (Option NmeaTokenizer)
  | 0, _, _ => .ok none
  | fuel + 1, p, t =>
    if p < e then do
      let q := (← memchr sentence 44 p (e - p)).getD e
      let t ← if q ≥ p then t.keep (.part p q) else .ok t
      tokenLoop sentence e fuel (if q < e then q + 1 else q) t
    else .ok (some t)

/-- `t` is filled in from a sentence; what was in it is overwritten or stays behind `count`. -/
def nmeaTokenizerInit (fuel : ℕ) (t : NmeaTokenizer) (sentence : List UInt8) :
    Except Fault (Option NmeaTokenizer) := do
  let e := sentence.length
  let p ← skipDollar sentence 0 e
  let e ← trimNewline sentence p e
  let e ← trimChecksum sentence p e
  tokenLoop sentence e fuel p { t with count := 0 }

def nmeaTokenizerGet (t : NmeaTokenizer) (index : ℤ) : Except Fault Token :=
  if index < 0 ∨ index ≥ t.count then .ok .dummy
  else readAt t.tokens.toList index.toNat

/-! ## What it is for -/

def stripDollar (sentence : List UInt8) : List UInt8 :=
  if sentence.head? = some 36 then sentence.tail else sentence

def stripNewline (sentence : List UInt8) : List UInt8 :=
  if sentence.getLast? = some 10 then
    if sentence.dropLast.getLast? = some 13 then sentence.dropLast.dropLast else sentence.dropLast
  else sentence

/-- Without `*` and two characters at the end. -/
def stripChecksum (sentence : List UInt8) : List UInt8 :=
  if 3 ≤ sentence.length ∧ sentence[sentence.length - 3]? = some 42 then
    sentence.take (sentence.length - 3)
  else sentence

def nmeaBody (sentence : List UInt8) : List UInt8 :=
  stripChecksum (stripNewline (stripDollar sentence))

def nmeaField (sentence : List UInt8) (i : ℕ) : List UInt8 := ((nmeaBody sentence).splitOn 44)[i]?.getD []

/-! ## Parts of the sentence -/

section Slices

variable {s : List UInt8} {p n : ℕ}

theorem getElem?_slice {i : ℕ} (hi : i < n) : (slice s p n)[i]? = s[p + i]? := by
  rw [slice, List.getElem?_take_of_lt hi, List.getElem?_drop]

theorem take_slice {m : ℕ} (hm : m ≤ n) : (slice s p n).take m = slice s p m := by
  rw [slice, slice, take_take, Nat.min_eq_left hm]

theorem slice_succ {b : UInt8} (hb : s[p]? = some b) : slice s p (n + 1) = b :: slice s (p + 1) n := by
  obtain ⟨hp, rfl⟩ := List.getElem?_eq_some_iff.mp hb
  rw [slice, drop_eq_getElem_cons hp, take_succ_cons, slice]

theorem dropLast_slice (h : p + (n + 1) ≤ s.length) : (slice s p (n + 1)).dropLast = slice s p n := by
  rw [dropLast_eq_take, length_slice h, Nat.add_sub_cancel, take_slice (Nat.le_succ n)]

theorem getLast?_slice (h : p + (n + 1) ≤ s.length) : (slice s p (n + 1)).getLast? = s[p + n]? := by
  rw [List.getLast?_eq_getElem?, length_slice h, Nat.add_sub_cancel, getElem?_slice (Nat.lt_succ_self n)]

theorem exists_readAt {i : ℕ} (h : i < s.length) : ∃ b, s[i]? = some b ∧ readAt s i = .ok b :=
  ⟨_, List.getElem?_eq_getElem h, readAt_of_getElem? (List.getElem?_eq_getElem h)⟩

end Slices

/-! ## The pointers before the loop -/

/-- **The pointers stand around a text.** -/
structure Around (s : List UInt8) (p e : ℕ) (text : List UInt8) : Prop where
  le : p ≤ e
  le_length : e ≤ s.length
  eq : slice s p (e - p) = text

section Pointers

variable {s : List UInt8}

theorem skipDollar_ok (s : List UInt8) :
    ∃ p, skipDollar s 0 s.length = .ok p ∧ Around s p s.length (stripDollar s) := by
  cases s with
  | nil => exact ⟨0, rfl, Nat.le_refl _, Nat.le_refl _, rfl⟩
  | cons c s =>
    have hread : readAt (c :: s) 0 = .ok c := rfl
    refine ⟨if c = 36 then 1 else 0, ?_, ?_⟩
    · rfl
    · by_cases hc : c = 36
      · rw [if_pos hc]
        exact ⟨by simp, Nat.le_refl _, by simp [slice, stripDollar, hc]⟩
      · rw [if_neg hc]
        exact ⟨by simp, Nat.le_refl _, by simp [slice, stripDollar, hc]⟩

variable {p e : ℕ} {text : List UInt8}

/-- The inner `if`, a carriage return in front of the newline. -/
theorem trimReturn_ok (s : List UInt8) (p : ℕ) {n : ℕ} (h : p + n ≤ s.length) :
    ∃ e', (if p + n > p then do
        let c ← readAt s (p + n - 1)
        .ok (if c = 13 then p + n - 1 else p + n)
      else .ok (p + n)) = Except.ok e' ∧
      Around s p e' (if (slice s p n).getLast? = some 13 then (slice s p n).dropLast else slice s p n) := by
  cases n with
  | zero => exact ⟨p, if_neg (Nat.lt_irrefl p), Nat.le_refl p, h, by simp [slice]⟩
  | succ n =>
    obtain ⟨d, hd, hread⟩ := exists_readAt (show p + n < s.length by omega)
    refine ⟨if d = 13 then p + n else p + (n + 1), ?_, ?_⟩
    · rw [if_pos (by omega), show p + (n + 1) - 1 = p + n from rfl, hread]
      rfl
    · rw [getLast?_slice h, dropLast_slice h, hd]
      by_cases hd13 : d = 13
      · rw [if_pos hd13, if_pos (congrArg some hd13)]
        exact ⟨by omega, by omega, by rw [Nat.add_sub_cancel_left]⟩
      · rw [if_neg hd13, if_neg (by simp [hd13])]
        exact ⟨by omega, by omega, by rw [Nat.add_sub_cancel_left]⟩

theorem trimNewline_ok (h : Around s p e text) :
    ∃ e', trimNewline s p e = .ok e' ∧ Around s p e' (stripNewline text) := by
  obtain ⟨hle, hlen, rfl⟩ := h
  obtain ⟨n, rfl⟩ := Nat.exists_eq_add_of_le hle
  rw [Nat.add_sub_cancel_left]
  cases n with
  | zero => exact ⟨p, if_neg (Nat.lt_irrefl p), Nat.le_refl p, hlen, by simp [slice, stripNewline]⟩
  | succ n =>
    obtain ⟨c, hc, hread⟩ := exists_readAt (show p + n < s.length by omega)
    rw [trimNewline, if_pos (by omega), show p + (n + 1) - 1 = p + n from rfl, hread, stripNewline,
      getLast?_slice hlen, dropLast_slice hlen, hc]
    by_cases hc10 : c = 10
    · have hlast : some c = some 10 := congrArg some hc10
      obtain ⟨e', he', haround⟩ := trimReturn_ok s p (show p + n ≤ s.length by omega)
      refine ⟨e', (if_pos hc10).trans he', ?_⟩
      rwa [if_pos hlast]
    · refine ⟨p + (n + 1), if_neg hc10, ?_⟩
      rw [if_neg (by simp [hc10])]
      exact ⟨by omega, hlen, by rw [Nat.add_sub_cancel_left]⟩

theorem trimChecksum_ok (h : Around s p e text) :
    ∃ e', trimChecksum s p e = .ok e' ∧ Around s p e' (stripChecksum text) := by
  obtain ⟨hle, hlen, rfl⟩ := h
  have htext : (slice s p (e - p)).length = e - p := length_slice (by omega)
  by_cases h3 : e ≥ p + 3
  · obtain ⟨c, hc, hread⟩ := exists_readAt (show e - 3 < s.length by omega)
    have hthird : (slice s p (e - p))[e - p - 3]? = some c := by
      rw [getElem?_slice (by omega), ← hc]
      congr 1
      omega
    refine ⟨if c = 42 then e - 3 else e, ?_, ?_⟩
    · rw [trimChecksum, if_pos h3, hread]
      rfl
    · rw [stripChecksum, htext, hthird]
      by_cases hstar : c = 42
      · rw [if_pos hstar, if_pos ⟨by omega, by rw [hstar]⟩, take_slice (by omega)]
        refine ⟨by omega, by omega, ?_⟩
        congr 1
        omega
      · rw [if_neg hstar, if_neg (by simp [hstar])]
        exact ⟨hle, hlen, rfl⟩
  · refine ⟨e, if_neg h3, hle, hlen, ?_⟩
    rw [stripChecksum, htext, if_neg (by omega)]

end Pointers

/-! ## The loop -/

section Loop

variable {s : List UInt8}

/-- **`memchr` finds the first.** -/
theorem memchr_ok (c : UInt8) (n : ℕ) {p : ℕ} (h : p + n ≤ s.length) :
    (memchr s c p n = .ok none ∧ c ∉ slice s p n) ∨
    ∃ k < n, memchr s c p n = .ok (some (p + k)) ∧ c ∉ slice s p k ∧
      slice s p n = slice s p k ++ c :: slice s (p + k + 1) (n - k - 1) := by
  induction n generalizing p with
  | zero => exact .inl ⟨rfl, by simp [slice]⟩
  | succ n ih =>
    obtain ⟨b, hb, hread⟩ := exists_readAt (show p < s.length by omega)
    have hunfold : memchr s c p (n + 1) = if b = c then .ok (some p) else memchr s c (p + 1) n := by
      rw [memchr, hread]
      rfl
    rw [hunfold, slice_succ hb]
    by_cases hbc : b = c
    · refine .inr ⟨0, by omega, if_pos hbc, by simp [slice], ?_⟩
      simp [slice, hbc]
    · rw [if_neg hbc]
      rcases ih (show p + 1 + n ≤ s.length by omega) with ⟨hnone, hnot⟩ | ⟨k, hk, hsome, hnot, heq⟩
      · exact .inl ⟨hnone, by simp [hnot, Ne.symm hbc]⟩
      · refine .inr ⟨k + 1, by omega, ?_, ?_, ?_⟩
        · rw [hsome, Nat.add_right_comm, Nat.add_assoc]
        · rw [slice_succ hb]
          simp [hnot, Ne.symm hbc]
        · rw [slice_succ hb, heq, cons_append, show p + 1 + k = p + (k + 1) by omega,
            show n + 1 - (k + 1) - 1 = n - k - 1 by omega]

/-- **The tokenizer has kept the first of the fields**, as many as it has room for. -/
structure Keeps (s : List UInt8) (t : NmeaTokenizer) (fields : List (List UInt8)) : Prop where
  count_eq : t.count = min fields.length maxNmeaTokens
  field : ∀ i < t.count, ∃ token, t.tokens.toList[i]? = some token ∧ fields[i]? = some (token.chars s)

variable {t : NmeaTokenizer} {fields : List (List UInt8)}

theorem Keeps.keep (h : Keeps s t fields) (token : Token) :
    ∃ t', t.keep token = .ok t' ∧ Keeps s t' (fields ++ [token.chars s]) := by
  have hcount := h.count_eq
  by_cases hroom : t.count < maxNmeaTokens
  · refine ⟨⟨t.count + 1, t.tokens.set t.count token hroom⟩, ?_, ?_, ?_⟩
    · rw [NmeaTokenizer.keep, if_pos hroom, writeAt_of_lt token hroom]
      rfl
    · simp only [length_append, length_singleton]
      omega
    · intro i hi
      have hlen : fields.length = t.count := by omega
      rw [Vector.toList_set]
      rcases Nat.lt_succ_iff_lt_or_eq.mp hi with hlt | rfl
      · obtain ⟨old, hold, hfield⟩ := h.field i hlt
        refine ⟨old, ?_, ?_⟩
        · rw [List.getElem?_set_ne (by omega), hold]
        · rw [List.getElem?_append_left (by omega), hfield]
      · refine ⟨token, List.getElem?_set_self (by simpa using hroom), ?_⟩
        rw [← hlen, List.getElem?_concat_length]
  · refine ⟨t, if_neg hroom, ?_, ?_⟩
    · simp only [length_append, length_singleton]
      omega
    · intro i hi
      obtain ⟨old, hold, hfield⟩ := h.field i hi
      exact ⟨old, hold, by rw [List.getElem?_append_left (by omega), hfield]⟩

/-- What is still to come between the pointers: the fields of the rest, or nothing after the last. -/
def Remaining (s : List UInt8) (p e : ℕ) (all fields : List (List UInt8)) : Prop :=
  all = fields ++ (slice s p (e - p)).splitOn 44 ∨ (p = e ∧ all = fields)

/-- A round keeps the text up to `q`, the next comma or the end, and goes on behind it. -/
theorem tokenLoop_round {e p : ℕ} (fuel : ℕ) (hlt : p < e) (hkeeps : Keeps s t fields) {r : Option ℕ}
    (hr : memchr s 44 p (e - p) = .ok r) {q : ℕ} (hrq : r.getD e = q) (hq : p ≤ q) :
    ∃ t', Keeps s t' (fields ++ [slice s p (q - p)]) ∧
      tokenLoop s e (fuel + 1) p t = tokenLoop s e fuel (if q < e then q + 1 else q) t' := by
  subst hrq
  obtain ⟨t', ht', hkeeps'⟩ := hkeeps.keep (.part p (r.getD e))
  refine ⟨t', hkeeps', ?_⟩
  rw [tokenLoop, if_pos hlt, hr]
  show (if r.getD e ≥ p then t.keep (.part p (r.getD e)) >>= _ else _) = _
  rw [if_pos hq, ht']
  rfl

/-- **The loop** ends after at most as many rounds as there are characters, and what it has not kept of the
fields is an empty one at the end. -/
theorem tokenLoop_ok {e : ℕ} (he : e ≤ s.length) (all : List (List UInt8)) (fuel : ℕ) {p : ℕ}
    (hp : p ≤ e) (hfuel : e - p < fuel) (hkeeps : Keeps s t fields) (hrest : Remaining s p e all fields) :
    ∃ t' fields', tokenLoop s e fuel p t = .ok (some t') ∧ Keeps s t' fields' ∧
      (all = fields' ++ [[]] ∨ all = fields') := by
  induction fuel generalizing p t fields with
  | zero => exact absurd hfuel (Nat.not_lt_zero _)
  | succ fuel ih =>
    by_cases hlt : p < e
    · have hsplit : all = fields ++ (slice s p (e - p)).splitOn 44 :=
        hrest.resolve_right fun h => absurd h.1 (Nat.ne_of_lt hlt)
      rcases memchr_ok 44 (e - p) (show p + (e - p) ≤ s.length by omega) with
        ⟨hnone, hnot⟩ | ⟨k, hk, hsome, hnot, heq⟩
      · obtain ⟨t', hkeeps', hnext⟩ := tokenLoop_round fuel hlt hkeeps hnone Option.getD_none hp
        rw [hnext, if_neg (Nat.lt_irrefl e)]
        refine ih (Nat.le_refl e) (by omega) hkeeps' (.inr ⟨rfl, ?_⟩)
        rw [hsplit, splitOn_eq_singleton hnot]
      · obtain ⟨t', hkeeps', hnext⟩ :=
          tokenLoop_round fuel hlt hkeeps hsome Option.getD_some (Nat.le_add_right p k)
        rw [hnext, if_pos (by omega)]
        refine ih (by omega) (by omega) hkeeps' (.inl ?_)
        rw [hsplit, heq, splitOn_append_cons_self_of_not_mem hnot, Nat.add_sub_cancel_left,
          append_assoc, singleton_append, show e - p - k - 1 = e - (p + k + 1) by omega]
    · refine ⟨t, fields, if_neg hlt, hkeeps, ?_⟩
      have hpe : p = e := by omega
      rcases hrest with hrest | ⟨-, hrest⟩
      · rw [hrest, hpe, Nat.sub_self]
        simp [slice]
      · exact .inr hrest

end Loop

/-! ## Fields by index -/

/-- A field that was kept is given back, any other is empty. -/
theorem Keeps.get {s : List UInt8} {t : NmeaTokenizer} {fields : List (List UInt8)}
    (h : Keeps s t fields) (index : ℤ) :
    ∃ token, nmeaTokenizerGet t index = .ok token ∧ token.chars s =
      if 0 ≤ index ∧ index < maxNmeaTokens then fields[index.toNat]?.getD [] else [] := by
  have hcount := h.count_eq
  by_cases hout : index < 0 ∨ index ≥ t.count
  · refine ⟨.dummy, if_pos hout, ?_⟩
    by_cases hin : 0 ≤ index ∧ index < maxNmeaTokens
    · rw [if_pos hin, List.getElem?_eq_none (by omega)]
      rfl
    · rw [if_neg hin]
      rfl
  · obtain ⟨token, htoken, hfield⟩ := h.field index.toNat (by omega)
    refine ⟨token, ?_, ?_⟩
    · rw [nmeaTokenizerGet, if_neg hout, readAt_of_getElem? htoken]
    · rw [if_pos (by omega), hfield]
      rfl

/-- An empty field at the end is not missed. -/
theorem getD_append_nil (fields : List (List UInt8)) (i : ℕ) : (fields ++ [[]])[i]?.getD [] = fields[i]?.getD [] := by
  rcases Nat.lt_trichotomy i fields.length with hlt | rfl | hgt
  · rw [List.getElem?_append_left hlt]
  · rw [List.getElem?_concat_length, List.getElem?_eq_none (Nat.le_refl _)]
    rfl
  · rw [List.getElem?_eq_none (by simp; omega), List.getElem?_eq_none (Nat.le_of_lt hgt)]

/-- The fields as the list model goes through them, `acc` being read of the first. -/
theorem getD_fieldsFrom (s : List UInt8) : ∀ {acc : List UInt8} (_ : 44 ∉ acc) (i : ℕ),
    (fieldsFrom acc s)[i]?.getD [] = ((acc ++ s).splitOn 44)[i]?.getD [] := by
  induction s with
  | nil =>
    intro acc hacc i
    rw [append_nil, splitOn_eq_singleton hacc, fieldsFrom]
    split_ifs with hempty
    · rw [hempty, ← nil_append [[]], getD_append_nil]
    · rfl
  | cons c s ih =>
    intro acc hacc i
    by_cases hc : c = 44
    · rw [fieldsFrom, if_pos hc, hc, splitOn_append_cons_self_of_not_mem hacc]
      cases i with
      | zero => rfl
      | succ i => exact ih not_mem_nil i
    · rw [fieldsFrom, if_neg hc, ih (by simp [hacc, Ne.symm hc]) i, append_assoc, singleton_append]

theorem dropTrailing_eq (c : UInt8) (l : List UInt8) :
    dropTrailing (· = c) l = if l.getLast? = some c then l.dropLast else l := by
  cases h : l.getLast? with
  | none | some => simp [dropTrailing, h]

/-- **The list model has the same fields.** -/
theorem lists_eq_nmeaField (sentence : List UInt8) (i : ℕ) :
    Hal.nmeaTokenizerGet (Hal.nmeaTokenizerInit sentence) i =
      if i < maxNmeaTokens then nmeaField sentence i else [] := by
  have hinit : Hal.nmeaTokenizerInit sentence = (fieldsFrom [] (nmeaBody sentence)).take maxNmeaTokens := by
    simp only [Hal.nmeaTokenizerInit, dropTrailing_eq]
    rfl
  rw [Hal.nmeaTokenizerGet, hinit, getD_eq_getElem?_getD]
  by_cases hi : i < maxNmeaTokens
  · rw [if_pos hi, List.getElem?_take_of_lt hi, getD_fieldsFrom _ not_mem_nil, nil_append, nmeaField]
  · rw [if_neg hi, List.getElem?_take_eq_none (by omega)]
    rfl

/-- **A sentence is tokenized**, without leaving it and with no more rounds than it has characters. -/
theorem nmeaTokenizerInit_ok (sentence : List UInt8) (t : NmeaTokenizer) {fuel : ℕ} (hfuel : sentence.length < fuel) :
    ∃ t' fields, nmeaTokenizerInit fuel t sentence = .ok (some t') ∧ Keeps sentence t' fields ∧
      ∀ i : ℕ, fields[i]?.getD [] = nmeaField sentence i := by
  obtain ⟨p, hp, haround⟩ := skipDollar_ok sentence
  obtain ⟨e₁, he₁, haround₁⟩ := trimNewline_ok haround
  obtain ⟨e₂, he₂, haround₂⟩ := trimChecksum_ok haround₁
  have hkeeps : Keeps sentence { t with count := 0 } [] := ⟨rfl, fun i hi => absurd hi (Nat.not_lt_zero i)⟩
  have hrest : Remaining sentence p e₂ ((nmeaBody sentence).splitOn 44) [] :=
    .inl (by rw [haround₂.eq, nil_append, nmeaBody])
  have hle := haround₂.le_length
  obtain ⟨t', fields, ht', hfields, hall⟩ :=
    tokenLoop_ok hle _ fuel haround₂.le (by omega) hkeeps hrest
  refine ⟨t', fields, ?_, hfields, ?_⟩
  · show (skipDollar sentence 0 sentence.length >>= _) = _
    rw [hp]
    show (trimNewline sentence p sentence.length >>= _) = _
    rw [he₁]
    show (trimChecksum sentence p e₁ >>= _) = _
    rw [he₂]
    exact ht'
  · intro i
    rw [nmeaField]
    rcases hall with hall | hall
    · rw [hall, getD_append_nil]
    · rw [hall]

/-- **The pointers refine the lists**: the model the parser of satellites is built on reads the same. -/
theorem nmeaTokenizer_refines_lists (sentence : List UInt8) (t : NmeaTokenizer) {fuel : ℕ}
    (hfuel : sentence.length < fuel) :
    ∃ t', nmeaTokenizerInit fuel t sentence = .ok (some t') ∧
      ∀ i : ℕ, ∃ token, nmeaTokenizerGet t' i = .ok token ∧
        token.chars sentence = Hal.nmeaTokenizerGet (Hal.nmeaTokenizerInit sentence) i := by
  obtain ⟨t', fields, ht', hkeeps, hfields⟩ := nmeaTokenizerInit_ok sentence t hfuel
  refine ⟨t', ht', fun i => ?_⟩
  obtain ⟨token, htoken, hchars⟩ := hkeeps.get i
  refine ⟨token, htoken, ?_⟩
  rw [hchars, lists_eq_nmeaField, Int.toNat_natCast, hfields]
  simp

/-- **Every field of every sentence.**  The sentence is never left, the loop needs no more rounds than the
sentence has characters, and an index outside the fields or the limit gets an empty token. -/
theorem nmeaTokenizer_fields (sentence : List UInt8) (t : NmeaTokenizer) (fuel : ℕ) (hfuel : sentence.length < fuel) :
    ∃ t', nmeaTokenizerInit fuel t sentence = .ok (some t') ∧
      ∀ index : ℤ, ∃ token, nmeaTokenizerGet t' index = .ok token ∧ token.chars sentence =
        if 0 ≤ index ∧ index < maxNmeaTokens then nmeaField sentence index.toNat else [] := by
  obtain ⟨t', fields, ht', hkeeps, hfields⟩ := nmeaTokenizerInit_ok sentence t hfuel
  refine ⟨t', ht', fun index => ?_⟩
  obtain ⟨token, htoken, hchars⟩ := hkeeps.get index
  exact ⟨token, htoken, by rw [hchars, hfields]⟩

/-- The sentence `$A,,B*47` with its line end has the fields `A`, none and `B`. -/
theorem nmeaTokenizer_threeFields :
    ∃ t', nmeaTokenizerInit 11 ⟨0, Vector.replicate _ .dummy⟩ [36, 65, 44, 44, 66, 42, 52, 55, 13, 10] =
        .ok (some t') ∧
      ∀ index : ℤ, ∃ token, nmeaTokenizerGet t' index = .ok token ∧
        token.chars [36, 65, 44, 44, 66, 42, 52, 55, 13, 10] =
          if 0 ≤ index ∧ index < maxNmeaTokens then [[65], [], [66]][index.toNat]?.getD [] else [] := by
  have hbody : (nmeaBody [36, 65, 44, 44, 66, 42, 52, 55, 13, 10]).splitOn 44 = [[65], [], [66]] := by decide
  obtain ⟨t', ht', hget⟩ := nmeaTokenizer_fields [36, 65, 44, 44, 66, 42, 52, 55, 13, 10]
    ⟨0, Vector.replicate _ .dummy⟩ 11 (by decide)
  exact ⟨t', ht', hget⟩

end Nmea

end Hal
