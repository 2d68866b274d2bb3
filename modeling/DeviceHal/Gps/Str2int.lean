import Mathlib.Data.List.TakeWhile
import DeviceHal.Core.Copies
import DeviceHal.Gps.Tokenizer

/-!
# Numbers in tokens

`str2int` reads a sign and digits between two pointers.  The pointers are offsets into a text here.  The first
character is read before the length is looked at, so that a byte has to follow an empty token; what it is makes
no difference.

**The defect.**  The accumulator is not checked.  A run of digits above `INT_MAX` overflows, which is undefined,
also where a character that is no digit comes later and the answer would be -1; and so does the number that only
fits with its sign.

* `Numeral`, `numeralValue` — what a token denotes.
* `leadingDigits` — the digits that the loop reads before it stops.
* **`str2int_exact_iff`** — `str2int` does what it should **iff** that value is at most `INT_MAX`.
* `str2int_refines_lists` — where nothing overflows, the parser of satellites reads the same number.
-/

namespace Hal

open List

namespace Nmea

/-- What the language leaves undefined: a read outside the text, and a value that an `int` does not hold. -/
inductive Undefined where
  | outside (offset : ℕ)
  | overflow (value : ℤ)
deriving DecidableEq

def charAt (text : List UInt8) (p : ℕ) : Except Undefined UInt8 :=
  match text[p]? with
  | some c => .ok c
  | none => .error (.outside p)

def asInt (z : ℤ) : Except Undefined ℤ := if InInt z then .ok z else .error (.overflow z)

/-- The loop; `none` is the jump to `Fail`. -/
def str2intLoop (text : List UInt8) (e : ℕ) : ℕ → ℕ → ℤ → Except Undefined (Option ℤ)
  | 0, _, result => .ok (some result)
  | len + 1, p, result =>
    if p ≥ e then .ok none
    else do
      let c : ℤ := (← charAt text p).toNat - 48
      if c < 0 ∨ c ≥ 10 then .ok none
      else do
        let tens ← asInt (result * 10)
        let result ← asInt (tens + c)
        str2intLoop text e len (p + 1) result

/-- `return sign*result`, or what is behind `Fail`. -/
def signed (minus : Bool) : Option ℤ → Except Undefined ℤ
  | some result => asInt ((if minus then -1 else 1) * result)
  | none => .ok (-1)

/-- `str2int(p, end)`. -/
def str2int (text : List UInt8) (p e : ℕ) : Except Undefined ℤ := do
  let c ← charAt text p
  let minus := decide (c = 45)
  let p := if minus then p + 1 else p
  let result ← str2intLoop text e ((e : ℤ) - p).toNat p 0
  signed minus result

/-! ## What it is for -/

def isDigit (c : UInt8) : Bool := 48 ≤ c ∧ c ≤ 57

def AllDigits (chars : List UInt8) : Prop := ∀ c ∈ chars, isDigit c = true

-- the list is searched, not the type of bytes
instance (chars : List UInt8) : Decidable (AllDigits chars) := List.decidableBAll _ _

/-- The number that digits go on to from `v`. -/
def decimalFrom (v : ℕ) (ds : List UInt8) : ℕ := ds.foldl (fun v c => v * 10 + (c.toNat - 48)) v

/-- The value of digits; no digits are 0. -/
def decimal (ds : List UInt8) : ℕ := decimalFrom 0 ds

def unsignedPart (tok : List UInt8) : List UInt8 := if tok.head? = some 45 then tok.tail else tok

/-- An optional `-` followed only by digits. -/
def Numeral (tok : List UInt8) : Prop := AllDigits (unsignedPart tok)

instance (tok : List UInt8) : Decidable (Numeral tok) := inferInstanceAs (Decidable (AllDigits _))

def numeralValue (tok : List UInt8) : ℤ :=
  if tok.head? = some 45 then -decimal (unsignedPart tok) else decimal (unsignedPart tok)

/-- The digits up to the first character that is none. -/
def leadingDigits (tok : List UInt8) : List UInt8 := (unsignedPart tok).takeWhile isDigit

def intMax : ℕ := 2147483647

/-! ## Digits -/

@[simp] lemma allDigits_nil : AllDigits [] := forall_mem_nil _

variable {ds : List UInt8}

@[simp] lemma allDigits_cons {c : UInt8} : AllDigits (c :: ds) ↔ isDigit c = true ∧ AllDigits ds := forall_mem_cons

lemma decimalFrom_cons (v : ℕ) (c : UInt8) (ds : List UInt8) :
    decimalFrom v (c :: ds) = decimalFrom (v * 10 + (c.toNat - 48)) ds := by
  simp [decimalFrom]

lemma le_decimalFrom (v : ℕ) (ds : List UInt8) : v ≤ decimalFrom v ds := by
  induction ds generalizing v with
  | nil => exact le_rfl
  | cons c ds ih =>
    have hle := ih (v * 10 + (c.toNat - 48))
    rw [decimalFrom_cons]
    omega

lemma isDigit_iff (c : UInt8) : isDigit c = true ↔ 48 ≤ c.toNat ∧ c.toNat ≤ 57 := by
  rw [isDigit, decide_eq_true_iff, UInt8.le_iff_toNat_le, UInt8.le_iff_toNat_le]
  exact Iff.rfl

lemma decimalFrom_lt (hds : AllDigits ds) (v : ℕ) : decimalFrom v ds < (v + 1) * 10 ^ ds.length := by
  induction ds generalizing v with
  | nil => simp [decimalFrom]
  | cons c ds ih =>
    have hc := (isDigit_iff c).mp (hds c mem_cons_self)
    have hlt := ih (fun c' hc' => hds c' (mem_cons_of_mem c hc')) (v * 10 + (c.toNat - 48))
    rw [decimalFrom_cons, length_cons, pow_succ']
    calc decimalFrom (v * 10 + (c.toNat - 48)) ds
        < (v * 10 + (c.toNat - 48) + 1) * 10 ^ ds.length := hlt
      _ ≤ ((v + 1) * 10) * 10 ^ ds.length := Nat.mul_le_mul_right _ (by omega)
      _ = (v + 1) * (10 * 10 ^ ds.length) := Nat.mul_assoc _ _ _

lemma not_digit_iff (c : UInt8) : ((c.toNat : ℤ) - 48 < 0 ∨ (c.toNat : ℤ) - 48 ≥ 10) ↔ ¬ isDigit c = true := by
  rw [isDigit_iff]
  omega

lemma charAt_of_getElem? {text : List UInt8} {p : ℕ} {c : UInt8} (h : text[p]? = some c) : charAt text p = .ok c := by
  rw [charAt, h]

/-! ## The loop -/

section Loop

variable {text : List UInt8} {e len p v : ℕ} {c : UInt8}

lemma str2intLoop_of_not_digit {result : ℤ} (hp : p < e) (hc : text[p]? = some c)
    (hdigit : ¬ isDigit c = true) : str2intLoop text e (len + 1) p result = .ok none := by
  rw [str2intLoop, if_neg (by omega), charAt_of_getElem? hc]
  exact if_pos ((not_digit_iff c).mpr hdigit)

lemma str2intLoop_of_digit (hp : p < e) (hc : text[p]? = some c) (hdigit : isDigit c = true) :
    str2intLoop text e (len + 1) p v
      = (asInt ((v : ℤ) * 10) >>= fun tens => asInt (tens + ((c.toNat : ℤ) - 48)) >>=
          str2intLoop text e len (p + 1)) := by
  rw [str2intLoop, if_neg (by omega), charAt_of_getElem? hc]
  exact if_neg fun h => (not_digit_iff c).mp h hdigit

lemma str2intLoop_of_le (hp : p < e) (hc : text[p]? = some c)
    (hdigit : isDigit c = true) (hle : v * 10 + (c.toNat - 48) ≤ intMax) :
    str2intLoop text e (len + 1) p v = str2intLoop text e len (p + 1) (v * 10 + (c.toNat - 48) : ℕ) := by
  have hrange := (isDigit_iff c).mp hdigit
  have hcast : (v : ℤ) * 10 + ((c.toNat : ℤ) - 48) = (v * 10 + (c.toNat - 48) : ℕ) := by omega
  unfold intMax at hle
  have htens : asInt ((v : ℤ) * 10) = .ok ((v : ℤ) * 10) := if_pos ⟨by omega, by omega⟩
  have hsum : asInt ((v : ℤ) * 10 + ((c.toNat : ℤ) - 48)) = .ok ((v * 10 + (c.toNat - 48) : ℕ) : ℤ) := by
    rw [hcast]
    exact if_pos ⟨by omega, by omega⟩
  rw [str2intLoop_of_digit hp hc hdigit, htens]
  show (asInt ((v : ℤ) * 10 + ((c.toNat : ℤ) - 48)) >>= _) = _
  rw [hsum]
  rfl

lemma str2intLoop_of_gt (hp : p < e) (hc : text[p]? = some c)
    (hdigit : isDigit c = true) (hgt : intMax < v * 10 + (c.toNat - 48)) :
    ∃ z, str2intLoop text e (len + 1) p v = .error (.overflow z) := by
  have hrange := (isDigit_iff c).mp hdigit
  unfold intMax at hgt
  rw [str2intLoop_of_digit hp hc hdigit]
  by_cases htens : InInt ((v : ℤ) * 10)
  · have hsum : ¬ InInt ((v : ℤ) * 10 + ((c.toNat : ℤ) - 48)) := fun h => by
      have hlt := h.2
      omega
    refine ⟨(v : ℤ) * 10 + ((c.toNat : ℤ) - 48), ?_⟩
    rw [asInt, if_pos htens]
    show (asInt ((v : ℤ) * 10 + ((c.toNat : ℤ) - 48)) >>= _) = _
    rw [asInt, if_neg hsum]
    rfl
  · refine ⟨(v : ℤ) * 10, ?_⟩
    rw [asInt, if_neg htens]
    rfl

variable {rest ds : List UInt8}

lemma getElem?_of_drop (h : text.drop p = c :: ds ++ rest) : text[p]? = some c ∧ text.drop (p + 1) = ds ++ rest := by
  constructor
  · rw [← head?_drop, h, cons_append, head?_cons]
  · rw [← tail_drop, h, cons_append, tail_cons]

/-- **The loop**, where the digits it reads stay within an `int`. -/
lemma str2intLoop_ok (he : p + ds.length = e) (htext : text.drop p = ds ++ rest)
    (hle : decimalFrom v (ds.takeWhile isDigit) ≤ intMax) :
    str2intLoop text e ds.length p v
      = .ok (if AllDigits ds then some (decimalFrom v ds : ℤ) else none) := by
  induction ds generalizing p v with
  | nil => simp [str2intLoop, decimalFrom]
  | cons c ds ih =>
    obtain ⟨hc, htext'⟩ := getElem?_of_drop htext
    rw [length_cons] at he ⊢
    by_cases hdigit : isDigit c = true
    · rw [takeWhile_cons_of_pos hdigit, decimalFrom_cons] at hle
      rw [str2intLoop_of_le (by omega) hc hdigit ((le_decimalFrom _ _).trans hle),
        ih (by omega) htext' hle, decimalFrom_cons]
      simp [hdigit]
    · rw [str2intLoop_of_not_digit (by omega) hc hdigit, if_neg]
      exact fun hall => hdigit (hall c mem_cons_self)

/-- **The loop**, where they do not. -/
lemma str2intLoop_overflow (he : p + ds.length = e)
    (htext : text.drop p = ds ++ rest) (hv : v ≤ intMax) (hgt : intMax < decimalFrom v (ds.takeWhile isDigit)) :
    ∃ z, str2intLoop text e ds.length p v = .error (.overflow z) := by
  induction ds generalizing p v with
  | nil => exact absurd hgt (not_lt.mpr hv)
  | cons c ds ih =>
    obtain ⟨hc, htext'⟩ := getElem?_of_drop htext
    rw [length_cons] at he ⊢
    by_cases hdigit : isDigit c = true
    · rw [takeWhile_cons_of_pos hdigit, decimalFrom_cons] at hgt
      by_cases hle : v * 10 + (c.toNat - 48) ≤ intMax
      · rw [str2intLoop_of_le (by omega) hc hdigit hle]
        exact ih (by omega) htext' hle hgt
      · exact str2intLoop_of_gt (by omega) hc hdigit (not_le.mp hle)
    · rw [takeWhile_cons_of_neg hdigit] at hgt
      exact absurd hgt (not_lt.mpr hv)

end Loop

/-! ## The function -/

section Function

variable {text rest tok : List UInt8} {p e : ℕ} {next : UInt8}

lemma str2int_of_getElem? {c : UInt8} (hc : text[p]? = some c) (q : ℕ) (hq : q = if c = 45 then p + 1 else p) :
    str2int text p e = str2intLoop text e ((e : ℤ) - q).toNat q 0 >>= signed (decide (c = 45)) := by
  rw [hq, str2int, charAt_of_getElem? hc]
  by_cases hminus : c = 45
  · rw [if_pos hminus, decide_eq_true hminus]
    show (str2intLoop text e _ (if decide (c = 45) then p + 1 else p) 0 >>= signed (decide (c = 45))) = _
    rw [decide_eq_true hminus]
    rfl
  · rw [if_neg hminus, decide_eq_false hminus]
    show (str2intLoop text e _ (if decide (c = 45) then p + 1 else p) 0 >>= signed (decide (c = 45))) = _
    rw [decide_eq_false hminus]
    rfl

lemma str2int_nil (hnext : text[p]? = some next) : str2int text p p = .ok 0 := by
  rw [str2int_of_getElem? hnext _ rfl]
  have hlen : ((p : ℤ) - (if next = 45 then p + 1 else p : ℕ)).toNat = 0 := by
    split_ifs <;> omega
  rw [hlen]
  unfold signed
  split_ifs <;> rfl

lemma str2int_cons {c : UInt8} {ds : List UInt8} (he : p + (c :: ds).length = e)
    (htext : text.drop p = c :: ds ++ rest) :
    ∃ q, q + (unsignedPart (c :: ds)).length = e ∧ text.drop q = unsignedPart (c :: ds) ++ rest ∧
      str2int text p e =
        str2intLoop text e (unsignedPart (c :: ds)).length q (0 : ℕ) >>= signed (decide (c = 45)) := by
  obtain ⟨hc, htext'⟩ := getElem?_of_drop htext
  rw [length_cons] at he
  by_cases hminus : c = 45
  · have hpart : unsignedPart (c :: ds) = ds := by simp [unsignedPart, hminus]
    have hlen : ((e : ℤ) - (p + 1 : ℕ)).toNat = ds.length := by omega
    refine ⟨p + 1, by rw [hpart]; omega, by rw [hpart]; exact htext', ?_⟩
    rw [hpart, str2int_of_getElem? hc (p + 1) (if_pos hminus).symm, hlen]
    rfl
  · have hpart : unsignedPart (c :: ds) = c :: ds := by simp [unsignedPart, hminus]
    have hlen : ((e : ℤ) - p).toNat = (c :: ds).length := by
      rw [length_cons]
      omega
    refine ⟨p, by rw [hpart, length_cons]; omega, by rw [hpart]; exact htext, ?_⟩
    rw [hpart, str2int_of_getElem? hc p (if_neg hminus).symm, hlen]
    rfl

lemma numeralValue_cons (c : UInt8) (ds : List UInt8) :
    numeralValue (c :: ds) = (if decide (c = 45) then -1 else 1) * (decimal (unsignedPart (c :: ds)) : ℤ) := by
  by_cases hminus : c = 45
  · simp [numeralValue, hminus]
  · simp [numeralValue, hminus]

lemma asInt_signed {v : ℕ} (hv : v ≤ intMax) (minus : Bool) :
    asInt ((if minus then -1 else 1) * (v : ℤ)) = .ok ((if minus then -1 else 1) * (v : ℤ)) := by
  unfold intMax at hv
  refine if_pos ?_
  unfold InInt
  split_ifs <;> omega

/-- **Digits within an `int`**: the number, or -1 where there is none. -/
theorem str2int_of_le (he : p + tok.length = e) (htext : text.drop p = tok ++ rest) (hread : tok ++ rest ≠ [])
    (hle : decimal (leadingDigits tok) ≤ intMax) :
    str2int text p e = .ok (if Numeral tok then numeralValue tok else -1) := by
  cases tok with
  | nil =>
    obtain ⟨next, hnext⟩ : ∃ next, text[p]? = some next := by
      rw [← head?_drop, htext, ← Option.isSome_iff_exists]
      exact isSome_head?.mpr hread
    rw [show e = p from he.symm, str2int_nil hnext]
    rfl
  | cons c ds =>
    obtain ⟨q, hq, hdrop, heq⟩ := str2int_cons he htext
    rw [heq, str2intLoop_ok hq hdrop hle]
    show signed _ (if Numeral (c :: ds) then _ else _) = _
    by_cases hnumeral : Numeral (c :: ds)
    · have hall : (unsignedPart (c :: ds)).takeWhile isDigit = unsignedPart (c :: ds) :=
        takeWhile_eq_self_iff.mpr hnumeral
      rw [leadingDigits, hall] at hle
      rw [if_pos hnumeral, if_pos hnumeral, numeralValue_cons]
      exact asInt_signed hle _
    · rw [if_neg hnumeral, if_neg hnumeral]
      rfl

lemma inInt_numeralValue (hnumeral : Numeral tok) (hle : decimal (leadingDigits tok) ≤ intMax) :
    InInt (numeralValue tok) := by
  have hall : leadingDigits tok = unsignedPart tok := takeWhile_eq_self_iff.mpr hnumeral
  rw [hall] at hle
  unfold intMax at hle
  unfold numeralValue InInt
  split_ifs <;> omega

/-- **Digits beyond an `int`.** -/
theorem str2int_of_gt (he : p + tok.length = e) (htext : text.drop p = tok ++ rest)
    (hgt : intMax < decimal (leadingDigits tok)) : ∃ z, str2int text p e = .error (.overflow z) := by
  cases tok with
  | nil => exact absurd hgt (by decide)
  | cons c ds =>
    obtain ⟨q, hq, hdrop, heq⟩ := str2int_cons he htext
    obtain ⟨z, hz⟩ := str2intLoop_overflow hq hdrop (Nat.zero_le _) hgt
    refine ⟨z, ?_⟩
    rw [heq, hz]
    rfl

end Function

/-! ## What it does -/

lemma drop_append_length (before tok : List UInt8) (rest : List UInt8) :
    (before ++ tok ++ rest).drop before.length = tok ++ rest := by
  rw [append_assoc, drop_left]

/-- **`str2int` is exact** on a token, wherever it stands and whatever follows it, iff the digits it reads are at most
`INT_MAX`: a numeral that fits is answered with its value, anything else with -1, and nothing overflows. -/
theorem str2int_exact_iff (before tok after : List UInt8) (next : UInt8) :
    str2int (before ++ tok ++ next :: after) before.length (before.length + tok.length)
        = .ok (if Numeral tok ∧ InInt (numeralValue tok) then numeralValue tok else -1)
      ↔ decimal (leadingDigits tok) ≤ intMax := by
  have htext := drop_append_length before tok (next :: after)
  constructor
  · intro hexact
    by_contra hgt
    obtain ⟨z, hz⟩ := str2int_of_gt rfl htext (not_le.mp hgt)
    rw [hz] at hexact
    cases hexact
  · intro hle
    rw [str2int_of_le rfl htext (by simp) hle]
    by_cases hnumeral : Numeral tok
    · rw [if_pos hnumeral, if_pos ⟨hnumeral, inInt_numeralValue hnumeral hle⟩]
    · rw [if_neg hnumeral, if_neg fun h => hnumeral h.1]

/-- The value 2147483648 does not fit, and the answer should be -1. -/
theorem ten_digits_overflow :
    str2int ([] ++ [50, 49, 52, 55, 52, 56, 51, 54, 52, 56] ++ [44]) 0 10 = .error (.overflow 2147483648) ∧
      ¬ str2int ([] ++ [50, 49, 52, 55, 52, 56, 51, 54, 52, 56] ++ [44]) 0 10
        = .ok (if Numeral [50, 49, 52, 55, 52, 56, 51, 54, 52, 56] ∧
              InInt (numeralValue [50, 49, 52, 55, 52, 56, 51, 54, 52, 56])
            then numeralValue [50, 49, 52, 55, 52, 56, 51, 54, 52, 56] else -1) := by
  decide

/-! ## The model of the parser -/

lemma wrapInt_of_inInt {z : ℤ} (h : InInt z) : wrapInt z = z := wrapInt_eq_self h.1 h.2

lemma digits_eq {v : ℕ} (hle : decimalFrom v (ds.takeWhile isDigit) ≤ intMax) :
    digits v ds = if AllDigits ds then some (decimalFrom v ds : ℤ) else none := by
  induction ds generalizing v with
  | nil => simp [digits, decimalFrom]
  | cons c ds ih =>
    rw [digits]
    by_cases hdigit : isDigit c = true
    · have hrange := (isDigit_iff c).mp hdigit
      rw [takeWhile_cons_of_pos hdigit, decimalFrom_cons] at hle
      have hnext := (le_decimalFrom _ _).trans hle
      unfold intMax at hnext
      have hcast : (v : ℤ) * 10 + ((c.toNat : ℤ) - 48) = (v * 10 + (c.toNat - 48) : ℕ) := by omega
      rw [if_pos (of_decide_eq_true hdigit), hcast, wrapInt_of_inInt ⟨by omega, by omega⟩, ih hle, decimalFrom_cons]
      simp [hdigit]
    · rw [if_neg fun h => hdigit (decide_eq_true h), if_neg]
      exact fun hall => hdigit (hall c mem_cons_self)

lemma lists_str2int_eq (tok : List UInt8) :
    Hal.str2int tok =
      if tok.head? = some 45 then ((digits 0 (unsignedPart tok)).map fun n => wrapInt (-n)).getD (-1)
      else (digits 0 (unsignedPart tok)).getD (-1) := by
  unfold Hal.str2int
  split
  · rfl
  · next hne =>
    have hminus : ¬ tok.head? = some 45 := by
      intro hhead
      cases tok with
      | nil => cases hhead
      | cons c ds => exact hne ds (by rw [Option.some.inj hhead])
    rw [if_neg hminus, unsignedPart, if_neg hminus]

/-- **The parser of satellites reads the same numbers**, where nothing overflows. -/
theorem str2int_refines_lists {before tok after : List UInt8} {next : UInt8} {z : ℤ}
    (h : str2int (before ++ tok ++ next :: after) before.length (before.length + tok.length) = .ok z) :
    Hal.str2int tok = z := by
  have htext := drop_append_length before tok (next :: after)
  have hle : decimal (leadingDigits tok) ≤ intMax := by
    by_contra hgt
    obtain ⟨z', hz'⟩ := str2int_of_gt rfl htext (not_le.mp hgt)
    rw [hz'] at h
    cases h
  rw [str2int_of_le rfl htext (by simp) hle] at h
  have hdigits : digits 0 (unsignedPart tok) = if Numeral tok then some (decimal (unsignedPart tok) : ℤ) else none :=
    digits_eq hle
  rw [← Except.ok.inj h, lists_str2int_eq, hdigits]
  by_cases hnumeral : Numeral tok
  · have hint := inInt_numeralValue hnumeral hle
    unfold numeralValue at hint ⊢
    split_ifs at hint ⊢ with hminus
    · exact wrapInt_of_inInt hint
    · rfl
  · split_ifs <;> rfl

end Nmea

end Hal
