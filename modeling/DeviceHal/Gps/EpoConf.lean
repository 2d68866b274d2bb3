import DeviceHal.Core.Keyed
import DeviceHal.Gps.Str2int

/-!
# The EPO configuration

`gps_download_epo_enable` reads the file `gps.conf` line by line into a buffer of 100 bytes.  `get_val` cuts a line
at its `=` and the value at the first space behind it, by writing terminators into the buffer, and five variables are
set from the values of their keys.

**The defect.**  A value ends where its terminator was written, in front of the newline.  The callers take one more
character off, as if the newline was still there: of `DW_DAYS=30` they read `3`, of `EPO_ENABLE=1` nothing at all,
which is 0.

* `getVal_comment`, `getVal_setting` — how a line is cut, with its newline or without.
* **`epoConf_exact_iff`** — when each variable holds what the last line of its key says.
-/

namespace Hal.EpoConf

open List Option Nmea

/-! ## The program -/

/-- `GPS_CONF_FILE_SIZE`. -/
def confFileSize : ℕ := 100

/-- `IS_SPACE`: a space, a tab or a newline. -/
def isSpace (c : UInt8) : Bool := c = 32 ∨ c = 9 ∨ c = 10

/-- The string at an offset; it is read up to its terminator. -/
def cString (buf : List UInt8) (p : ℕ) : Except Undefined (List UInt8) :=
  if 0 ∈ buf.drop p then .ok ((buf.drop p).takeWhile (· ≠ 0)) else .error (.outside buf.length)

def setAt (buf : List UInt8) (p : ℕ) (c : UInt8) : Except Undefined (List UInt8) :=
  if p < buf.length then .ok (buf.set p c) else .error (.outside p)

/-- `while (cond(*pStr) && (pStr < end)) pStr++`, with `end - pStr` characters left. -/
def scanWhile (cond : UInt8 → Bool) (buf : List UInt8) : ℕ → ℕ → Except Undefined ℕ
  | 0, p => charAt buf p >>= fun _ => .ok p
  | n + 1, p => charAt buf p >>= fun c => if cond c then scanWhile cond buf n (p + 1) else .ok p

/-- What `get_val` returns: -1, 0 with two null pointers, or 0 with a key and a value. -/
inductive GetVal where
  | fail
  | comment
  | pair (key val : ℕ)

/-- The second half of `get_val`, on a line that ends in a newline. -/
def cutLine (buf : List UInt8) (len : ℕ) : Except Undefined (List UInt8 × GetVal) := do
  let eq ← scanWhile (fun c => c ≠ 61) buf len 0
  if eq ≥ len then return (buf, .fail)
  else do
    let buf ← setAt buf eq 0
    let val ← scanWhile isSpace buf (len - (eq + 1)) (eq + 1)
    let stop ← scanWhile (fun c => !isSpace c) buf (len - val) val
    let buf ← setAt buf stop 0
    return (buf, .pair 0 val)

/-- `get_val`.  Where the newline is missing it takes the place of the terminator. -/
def getVal (buf : List UInt8) : Except Undefined (List UInt8 × GetVal) := do
  let str ← cString buf 0
  let len := str.length
  if len = 0 then return (buf, .fail)
  else if str.head? = some 35 then return (buf, .comment)
  else if str.getLast? = some 10 then cutLine buf len
  else if len ≥ confFileSize - 1 then return (buf, .fail)
  else do
    let buf ← setAt buf len 10
    cutLine buf len

/-- A line of the file, at most `n` characters of it, and what comes after. -/
def fgetsLine : ℕ → List UInt8 → List UInt8 × List UInt8
  | 0, file => ([], file)
  | _ + 1, [] => ([], [])
  | n + 1, c :: file =>
    if c = 10 then ([10], file)
    else
      let (line, rest) := fgetsLine n file
      (c :: line, rest)

def fgets (buf file : List UInt8) : Option (List UInt8 × List UInt8) :=
  if file = [] then none
  else
    let (line, rest) := fgetsLine (buf.length - 1) file
    some (patch buf 0 (line ++ [0]), rest)

inductive Key where
  | epoEnable
  | dwDays
  | gpsEpoPeriod
  | wifiEpoPeriod
  | epoWifiTrigger
deriving DecidableEq

namespace Key

def name (k : Key) : List UInt8 :=
  let chars : List Char :=
    match k with
    | epoEnable => ['E', 'P', 'O', '_', 'E', 'N', 'A', 'B', 'L', 'E']
    | dwDays => ['D', 'W', '_', 'D', 'A', 'Y', 'S']
    | gpsEpoPeriod => ['G', 'P', 'S', '_', 'E', 'P', 'O', '_', 'P', 'E', 'R', 'I', 'O', 'D']
    | wifiEpoPeriod => ['W', 'I', 'F', 'I', '_', 'E', 'P', 'O', '_', 'P', 'E', 'R', 'I', 'O', 'D']
    | epoWifiTrigger => ['E', 'P', 'O', '_', 'W', 'I', 'F', 'I', '_', 'T', 'R', 'I', 'G', 'G', 'E', 'R']
  chars.map fun c => UInt8.ofNat c.toNat

def Allowed (k : Key) (v : ℤ) : Prop :=
  match k with
  | epoEnable => v = 1 ∨ v = 0
  | dwDays => 0 ≤ v ∧ v ≤ 30
  | gpsEpoPeriod => v = 30 ∨ v = 3 ∨ v = 15
  | wifiEpoPeriod => v = 30 ∨ v = 3 ∨ v = 15
  | epoWifiTrigger => v = 1 ∨ v = 0

instance (k : Key) (v : ℤ) : Decidable (k.Allowed v) :=
  match k with
  | epoEnable => inferInstanceAs (Decidable (_ ∨ _))
  | dwDays => inferInstanceAs (Decidable (_ ∧ _))
  | gpsEpoPeriod => inferInstanceAs (Decidable (_ ∨ _ ∨ _))
  | wifiEpoPeriod => inferInstanceAs (Decidable (_ ∨ _ ∨ _))
  | epoWifiTrigger => inferInstanceAs (Decidable (_ ∨ _))

def fallback : Key → ℤ
  | epoEnable => 1
  | dwDays => 30
  | gpsEpoPeriod => 3
  | wifiEpoPeriod => 1
  | epoWifiTrigger => 1

end Key

structure Settings where
  gpsEpoEnable : ℤ
  gpsEpoDownloadDays : ℤ
  gpsEpoPeriod : ℤ
  wifiEpoPeriod : ℤ
  gpsEpoWifiTrigger : ℤ
deriving DecidableEq

def Settings.get (s : Settings) : Key → ℤ
  | .epoEnable => s.gpsEpoEnable
  | .dwDays => s.gpsEpoDownloadDays
  | .gpsEpoPeriod => s.gpsEpoPeriod
  | .wifiEpoPeriod => s.wifiEpoPeriod
  | .epoWifiTrigger => s.gpsEpoWifiTrigger

def Settings.put (s : Settings) (v : ℤ) : Key → Settings
  | .epoEnable => { s with gpsEpoEnable := v }
  | .dwDays => { s with gpsEpoDownloadDays := v }
  | .gpsEpoPeriod => { s with gpsEpoPeriod := v }
  | .wifiEpoPeriod => { s with wifiEpoPeriod := v }
  | .epoWifiTrigger => { s with gpsEpoWifiTrigger := v }

/-- One of the five branches: `len` is one less than the length of the value. -/
def branch (buf : List UInt8) (key val : ℕ) (s : Settings) (k : Key) : Except Undefined Settings := do
  let name ← cString buf key
  if name = k.name then do
    let str ← cString buf val
    let v ← Nmea.str2int buf val (val + str.length - 1)
    return s.put (if k.Allowed v then v else k.fallback) k
  else return s

/-- The keys, in the order of their branches. -/
def keys : List Key := [.epoEnable, .dwDays, .gpsEpoPeriod, .wifiEpoPeriod, .epoWifiTrigger]

def branches (buf : List UInt8) (key val : ℕ) (s : Settings) : Except Undefined Settings :=
  keys.foldlM (branch buf key val) s

/-- The loop over the lines, at most `fuel` times its condition; `none` if that is not enough. -/
def readLoop : ℕ → List UInt8 → List UInt8 → Settings → Option (Except Undefined (Settings × ℤ))
  | 0, _, _, _ => none
  | fuel + 1, buf, file, s =>
    match fgets buf file with
    | none => some (.ok (s, s.gpsEpoEnable))
    | some (buf, file) =>
      match getVal buf with
      | .error e => some (.error e)
      | .ok (_, .fail) => some (.ok (s, 1))
      | .ok (buf, .comment) => readLoop fuel buf file s
      | .ok (buf, .pair key val) =>
        match branches buf key val s with
        | .error e => some (.error e)
        | .ok s => readLoop fuel buf file s

/-- `gps_download_epo_enable`, with the contents of the file if it can be opened. -/
def gpsDownloadEpoEnable (fuel : ℕ) (file : Option (List UInt8)) (s : Settings) :
    Option (Except Undefined (Settings × ℤ)) :=
  match file with
  | none => some (.ok (s, 1))
  | some file => readLoop fuel (List.replicate confFileSize 0) file s

/-! ## What it is for -/

/-- A line of a configuration, without its newline. -/
inductive Line where
  | comment (text : List UInt8)
  | setting (key value : List UInt8)

def Line.text : Line → List UInt8
  | comment text => 35 :: text
  | setting key value => key ++ 61 :: value

/-- The key goes up to the first `=` and does not begin as a comment does. -/
def Line.Parses : Line → Prop
  | comment _ => True
  | setting key _ => 61 ∉ key ∧ key.head? ≠ some 35

instance : DecidablePred Line.Parses
  | .comment _ => isTrue trivial
  | .setting _ _ => inferInstanceAs (Decidable (_ ∧ _))

/-- A line that fits the buffer together with its newline. -/
structure ConfLine where
  line : Line
  parses : line.Parses
  newline_notMem : 10 ∉ line.text
  zero_notMem : 0 ∉ line.text
  length_lt : line.text.length + 1 < confFileSize

/-- The file, with a newline at its end or without. -/
def fileOf : List ConfLine → Bool → List UInt8
  | [], _ => []
  | [l], newline => l.line.text ++ if newline then [10] else []
  | l :: l' :: ls, newline => l.line.text ++ 10 :: fileOf (l' :: ls) newline

/-- The value: what is between the first spaces and the next. -/
def word (value : List UInt8) : List UInt8 := (value.dropWhile isSpace).takeWhile fun c => !isSpace c

/-- The values that the lines of a key give. -/
def valueFor (k : Key) (l : ConfLine) : Option (List UInt8) :=
  match l.line with
  | .comment _ => none
  | .setting key value => if key = k.name then some (word value) else none

def values (k : Key) (ls : List ConfLine) : List (List UInt8) := ls.filterMap (valueFor k)

/-- A decimal number: an optional `-` and at least one digit. -/
def Decimal (w : List UInt8) : Prop := Numeral w ∧ unsignedPart w ≠ []

instance (w : List UInt8) : Decidable (Decimal w) := inferInstanceAs (Decidable (_ ∧ _))

/-- What a value says: a decimal number that the key allows, and otherwise its fallback. -/
def denoted (k : Key) (w : List UInt8) : ℤ :=
  if Decimal w ∧ k.Allowed (numeralValue w) then numeralValue w else k.fallback

/-- What a variable holds after a file, if `f` says what a value does to it: the last one counts. -/
def heldAfter (f : Key → List UInt8 → ℤ) (k : Key) (ls : List ConfLine) (s : Settings) : ℤ :=
  ((values k ls).getLast?).elim (s.get k) (f k)

/-! ## The condition -/

/-- A number that the key keeps and that is not its fallback anyway. -/
def Key.Keeps (k : Key) (v : ℤ) : Prop := k.Allowed v ∧ v ≠ k.fallback

instance (k : Key) (v : ℤ) : Decidable (k.Keeps v) := inferInstanceAs (Decidable (_ ∧ _))

/-- It makes no difference whether the last character is there: the number is zero, or neither the value nor what is
left of it is a number that the key keeps. -/
def Indifferent (k : Key) (w : List UInt8) : Prop :=
  Decimal w ∧ numeralValue w = 0 ∨
    ¬ (Decimal w ∧ k.Keeps (numeralValue w)) ∧ ¬ (Numeral w.dropLast ∧ k.Keeps (numeralValue w.dropLast))

instance (k : Key) (w : List UInt8) : Decidable (Indifferent k w) := inferInstanceAs (Decidable (_ ∨ _))

/-- The digits that are read of a value stay within an `int`. -/
def Bounded (w : List UInt8) : Prop := decimal (leadingDigits w.dropLast) ≤ intMax

instance (w : List UInt8) : Decidable (Bounded w) := inferInstanceAs (Decidable (_ ≤ _))

/-! ## Cutting a line -/

section Cut

variable {buf rest key str value : List UInt8}

lemma cString_of_drop {p : ℕ} (hdrop : buf.drop p = str ++ 0 :: rest) (hstr : 0 ∉ str) :
    cString buf p = .ok str := by
  rw [cString, if_pos (by rw [hdrop]; simp), hdrop, takeWhile_ne_append hstr]

variable {c : UInt8}

/-- **A loop of `get_val`** over a region: it stops at the first character that the condition refuses, or at the end of
the region, where there is still a character to look at. -/
lemma scanWhile_region {cond : UInt8 → Bool} {s : List UInt8} {p : ℕ}
    (hdrop : buf.drop p = s ++ c :: rest) : scanWhile cond buf s.length p = .ok (p + (s.takeWhile cond).length) := by
  induction s generalizing p with
  | nil =>
    have hc : buf[p]? = some c := by
      rw [← head?_drop, hdrop]
      rfl
    rw [length_nil, scanWhile, charAt_of_getElem? hc]
    rfl
  | cons d s ih =>
    obtain ⟨hd, hdrop'⟩ := getElem?_of_drop hdrop
    rw [length_cons, scanWhile, charAt_of_getElem? hd]
    show (if cond d then _ else _) = _
    by_cases hcond : cond d = true
    · rw [if_pos hcond, ih hdrop', takeWhile_cons_of_pos hcond, length_cons]
      congr 1
      omega
    · rw [if_neg hcond, takeWhile_cons_of_neg hcond]
      rfl

lemma setAt_append {xs ys : List UInt8} {d : UInt8} : setAt (xs ++ d :: ys) xs.length c = .ok (xs ++ c :: ys) := by
  rw [setAt, if_pos (by simp), set_append_right _ _ le_rfl, Nat.sub_self, set_cons_zero]

lemma word_append_newline (value : List UInt8) : word (value ++ [10]) = word value := by
  induction value with
  | nil => decide
  | cons c value ih =>
    by_cases hspace : isSpace c = true
    · rw [word, word, cons_append, dropWhile_cons_of_pos hspace, dropWhile_cons_of_pos hspace]
      exact ih
    · rw [word, word, cons_append, dropWhile_cons_of_neg hspace, dropWhile_cons_of_neg hspace,
        ← cons_append, takeWhile_append]
      split_ifs with hall
      · have hself := ( takeWhile_prefix fun c => !isSpace c).eq_of_length hall
        rw [hself]
        simp [isSpace]
      · rfl

lemma exists_parts (value : List UInt8) :
    ∃ blank tail, value = blank ++ (word value ++ tail) ∧ value.takeWhile isSpace = blank ∧
      (word value ++ tail).takeWhile (fun c => !isSpace c) = word value := by
  have hword : word value ++ (value.dropWhile isSpace).dropWhile (fun c => !isSpace c) = value.dropWhile isSpace :=
    takeWhile_append_dropWhile
  refine ⟨value.takeWhile isSpace, (value.dropWhile isSpace).dropWhile fun c => !isSpace c, ?_, rfl, ?_⟩
  · rw [hword]
    exact takeWhile_append_dropWhile.symm
  · rw [hword]
    rfl

lemma drop_key (key : List UInt8) (c : UInt8) (s : List UInt8) : (key ++ c :: s).drop (key.length + 1) = s := by
  rw [← drop_drop, drop_left, drop_one, tail_cons]

/-- The store behind the word replaces the character there and leaves the rest. -/
lemma setAt_word (key blank w rest : List UInt8) (d : UInt8) :
    setAt (key ++ 0 :: (blank ++ (w ++ d :: rest))) (key.length + 1 + blank.length + w.length) 0
      = .ok (key ++ 0 :: (blank ++ (w ++ 0 :: rest))) := by
  have hassoc : ∀ x, key ++ 0 :: (blank ++ (w ++ x :: rest)) = key ++ 0 :: (blank ++ w) ++ x :: rest := by
    intro x
    simp
  have hplace : key.length + 1 + blank.length + w.length = (key ++ 0 :: (blank ++ w)).length := by
    rw [length_append, length_cons, length_append]
    omega
  rw [hassoc, hassoc, hplace, setAt_append]

/-- **How a line is cut**, by its parts.  The character `d` is the one behind the word. -/
lemma cutLine_of_parts {blank w tail rest' : List UInt8} {d : UInt8} (hkey : 61 ∉ key)
    (hvalue : value = blank ++ (w ++ tail)) (hblank : value.takeWhile isSpace = blank)
    (hw : (w ++ tail).takeWhile (fun c => !isSpace c) = w) (hnext : tail ++ c :: rest = d :: rest') :
    cutLine (key ++ 61 :: (value ++ c :: rest)) (key ++ 61 :: value).length
      = .ok (key ++ 0 :: (blank ++ (w ++ 0 :: rest')), .pair 0 (key.length + 1 + blank.length)) := by
  have hlen : (key ++ 61 :: value).length = key.length + 1 + value.length := by
    rw [length_append, length_cons]
    omega
  have hregion : value ++ c :: rest = blank ++ (w ++ d :: rest') := by
    rw [hvalue, append_assoc, append_assoc, hnext]
  have heq : scanWhile (fun c => c ≠ 61) (key ++ 61 :: (value ++ c :: rest)) (key ++ 61 :: value).length 0
      = .ok (0 + ((key ++ 61 :: value).takeWhile fun c => c ≠ 61).length) :=
    scanWhile_region (by rw [drop_zero, append_assoc, cons_append])
  have hval : scanWhile isSpace (key ++ 0 :: (value ++ c :: rest)) value.length (key.length + 1)
      = .ok (key.length + 1 + (value.takeWhile isSpace).length) :=
    scanWhile_region (drop_key key 0 _)
  have hdrop : (key ++ 0 :: (value ++ c :: rest)).drop (key.length + 1 + blank.length) = (w ++ tail) ++ c :: rest := by
    rw [← drop_drop, drop_key, hvalue, append_assoc, drop_left]
  have hstop : scanWhile (fun c => !isSpace c) (key ++ 0 :: (value ++ c :: rest)) (w ++ tail).length
        (key.length + 1 + blank.length)
      = .ok (key.length + 1 + blank.length + ((w ++ tail).takeWhile fun c => !isSpace c).length) :=
    scanWhile_region hdrop
  rw [takeWhile_ne_append hkey, Nat.zero_add] at heq
  rw [hblank] at hval
  rw [hw] at hstop
  rw [cutLine, heq]
  show (if key.length ≥ (key ++ 61 :: value).length then _ else _) = _
  rw [if_neg (by omega), setAt_append]
  show (scanWhile isSpace _ ((key ++ 61 :: value).length - (key.length + 1)) _ >>= _) = _
  rw [hlen, Nat.add_sub_cancel_left, hval]
  show (scanWhile _ _ (key.length + 1 + value.length - (key.length + 1 + blank.length)) _ >>= _) = _
  rw [Nat.add_sub_add_left, hvalue, length_append, Nat.add_sub_cancel_left, ← hvalue, hstop]
  show (setAt _ (key.length + 1 + blank.length + w.length) 0 >>= _) = _
  rw [hregion, setAt_word]
  rfl

/-- A line as it is found in the buffer. -/
def ended (text : List UInt8) (newline : Bool) : List UInt8 := text ++ if newline then [10] else []

/-- The buffer after a line has been cut. -/
def cut (key blank w rest : List UInt8) : List UInt8 := key ++ 0 :: (blank ++ (w ++ 0 :: rest))

variable {l : ConfLine}

lemma cString_line {newline : Bool} :
    cString (ended l.line.text newline ++ 0 :: rest) 0 = .ok (ended l.line.text newline) := by
  refine cString_of_drop (drop_zero) ?_
  have hzero := l.zero_notMem
  cases newline with
  | true | false => simpa [ended] using hzero

lemma getVal_comment {text : List UInt8} (hl : l.line = .comment text) (newline : Bool) :
    getVal (ended l.line.text newline ++ 0 :: rest) = .ok (ended l.line.text newline ++ 0 :: rest, .comment) := by
  rw [getVal, cString_line, hl]
  rfl

lemma getVal_of_newline (hstr : cString buf 0 = .ok str) (hne : str ≠ [])
    (hhead : str.head? ≠ some 35) (hlast : str.getLast? = some 10) : getVal buf = cutLine buf str.length := by
  rw [getVal, hstr]
  show (if str.length = 0 then _ else if str.head? = some 35 then _ else if str.getLast? = some 10 then _ else _) = _
  rw [if_neg (by rwa [length_eq_zero_iff]), if_neg hhead, if_pos hlast]

lemma getVal_of_no_newline (hstr : cString buf 0 = .ok str) (hne : str ≠ [])
    (hhead : str.head? ≠ some 35) (hlast : str.getLast? ≠ some 10) (hlen : str.length + 1 < confFileSize) :
    getVal buf = setAt buf str.length 10 >>= fun buf => cutLine buf str.length := by
  rw [getVal, hstr]
  show (if str.length = 0 then _ else if str.head? = some 35 then _ else if str.getLast? = some 10 then _
    else if str.length ≥ confFileSize - 1 then _ else _) = _
  rw [if_neg (by rwa [length_eq_zero_iff]), if_neg hhead, if_neg hlast, if_neg (by omega)]

lemma exists_cutLine (hkey : 61 ∉ key) :
    ∃ blank rest', cutLine (key ++ 61 :: (value ++ c :: rest)) (key ++ 61 :: value).length
        = .ok (cut key blank (word value) rest', .pair 0 (key.length + 1 + blank.length)) ∧
      (cut key blank (word value) rest').length = (key ++ 61 :: (value ++ c :: rest)).length := by
  obtain ⟨blank, tail, hvalue, hblank, hword⟩ := exists_parts value
  obtain ⟨d, rest', hnext⟩ : ∃ d rest', tail ++ c :: rest = d :: rest' := by
    cases tail with
    | nil => exact ⟨c, rest, rfl⟩
    | cons d tail => exact ⟨d, tail ++ c :: rest, rfl⟩
  refine ⟨blank, rest', cutLine_of_parts hkey hvalue hblank hword hnext, ?_⟩
  have hvlen := congrArg List.length hvalue
  have hnlen := congrArg List.length hnext
  simp only [cut, length_append, length_cons] at hvlen hnlen ⊢
  omega

/-- **How a line is cut**, with its newline or without. -/
lemma getVal_setting (hl : l.line = .setting key value) (newline : Bool) :
    ∃ blank rest', getVal (ended l.line.text newline ++ 0 :: rest)
        = .ok (cut key blank (word value) rest', .pair 0 (key.length + 1 + blank.length)) ∧
      (cut key blank (word value) rest').length = (ended l.line.text newline ++ 0 :: rest).length := by
  have htext : l.line.text = key ++ 61 :: value := by rw [hl, Line.text]
  have hparses := l.parses
  rw [hl] at hparses
  obtain ⟨hkey, hhead⟩ := hparses
  have hhead' : ∀ s, (key ++ 61 :: s).head? ≠ some 35 := by
    intro s
    cases key with
    | nil => simp
    | cons c key => exact hhead
  have hstr : cString (ended l.line.text newline ++ 0 :: rest) 0 = .ok (ended l.line.text newline) := cString_line
  cases newline with
  | true =>
    have hended : ended l.line.text true = key ++ 61 :: (value ++ [10]) := by
      rw [ended, htext, if_pos rfl, append_assoc, cons_append]
    have hbuf : key ++ 61 :: (value ++ [10]) ++ 0 :: rest = key ++ 61 :: ((value ++ [10]) ++ 0 :: rest) := by
      rw [append_assoc, cons_append]
    have hlast : (key ++ 61 :: (value ++ [10])).getLast? = some 10 := by
      rw [← cons_append, ← append_assoc, getLast?_concat]
    rw [hended] at hstr ⊢
    rw [getVal_of_newline hstr (by simp) (hhead' _) hlast, hbuf, ← word_append_newline]
    exact exists_cutLine hkey
  | false =>
    have hended : ended l.line.text false = key ++ 61 :: value := by
      rw [ended, htext, if_neg Bool.false_ne_true, append_nil]
    have hnewline : (key ++ 61 :: value).getLast? ≠ some 10 := by
      rw [← htext]
      exact fun h => l.newline_notMem (mem_of_getLast? h)
    have hbuf : key ++ 61 :: value ++ 10 :: rest = key ++ 61 :: (value ++ 10 :: rest) := by
      rw [append_assoc, cons_append]
    have hlt := l.length_lt
    rw [htext] at hlt
    rw [hended] at hstr ⊢
    rw [getVal_of_no_newline hstr (by simp) (hhead' _) hnewline hlt, setAt_append, hbuf]
    have hlen : (key ++ 61 :: value ++ 0 :: rest).length = (key ++ 61 :: (value ++ 10 :: rest)).length := by simp
    rw [hlen]
    exact exists_cutLine hkey

end Cut

/-! ## Setting a variable -/

lemma Settings.get_put (s : Settings) (v : ℤ) (k k' : Key) : (s.put v k).get k' = if k' = k then v else s.get k' := by
  cases k <;> cases k' <;> rfl

lemma mem_keys (k : Key) : k ∈ keys := by
  cases k <;> decide

lemma Key.name_injective : Function.Injective Key.name := by
  intro k k' h
  cases k <;> cases k' <;> first | rfl | exact absurd h (by decide)

def coded (k : Key) (w : List UInt8) : ℤ :=
  let v := if Numeral w.dropLast then numeralValue w.dropLast else -1
  if k.Allowed v then v else k.fallback

section Branch

variable {key blank w rest : List UInt8}

lemma cString_key (hkey : 0 ∉ key) : cString (cut key blank w rest) 0 = .ok key :=
  cString_of_drop (drop_zero) hkey

lemma drop_cut : (cut key blank w rest).drop (key.length + 1 + blank.length) = w ++ 0 :: rest := by
  rw [cut, ← drop_drop, drop_key, drop_left]

lemma cString_val (hw : 0 ∉ w) : cString (cut key blank w rest) (key.length + 1 + blank.length) = .ok w :=
  cString_of_drop drop_cut hw

lemma str2int_empty {text : List UInt8} {p : ℕ} (hp : text[p]? = some 0) : Nmea.str2int text p (p - 1) = .ok 0 := by
  have hlen : (((p - 1 : ℕ) : ℤ) - p).toNat = 0 := by omega
  rw [str2int_of_getElem? hp p (if_neg (by decide)).symm, hlen]
  rfl

lemma drop_value (hw : w ≠ []) :
    (cut key blank w rest).drop (key.length + 1 + blank.length) = w.dropLast ++ (w.getLast hw :: 0 :: rest) := by
  rw [drop_cut]
  conv_lhs => rw [← dropLast_append_getLast hw]
  rw [append_assoc]
  rfl

lemma end_value (hw : w ≠ []) (p : ℕ) : p + w.dropLast.length = p + w.length - 1 := by
  have hpos := length_pos_of_ne_nil hw
  rw [length_dropLast]
  omega

lemma str2int_cut (hbounded : Bounded w) :
    Nmea.str2int (cut key blank w rest) (key.length + 1 + blank.length) (key.length + 1 + blank.length + w.length - 1)
      = .ok (if Numeral w.dropLast then numeralValue w.dropLast else -1) := by
  by_cases hw : w = []
  · subst hw
    have hp : (cut key blank [] rest)[key.length + 1 + blank.length]? = some 0 := by
      rw [← head?_drop, drop_cut]
      rfl
    exact str2int_empty hp
  · exact str2int_of_le (end_value hw _) (drop_value hw) (by simp) hbounded

lemma str2int_cut_overflow (hbounded : ¬ Bounded w) :
    ∃ z, Nmea.str2int (cut key blank w rest) (key.length + 1 + blank.length)
      (key.length + 1 + blank.length + w.length - 1) = .error (.overflow z) := by
  have hw : w ≠ [] := by
    rintro rfl
    exact hbounded (by decide)
  exact str2int_of_gt (end_value hw _) (drop_value hw) (not_le.mp hbounded)

variable {s : Settings} {k : Key}

lemma branch_of_ne (hkey : 0 ∉ key) (hne : key ≠ k.name) (val : ℕ) :
    branch (cut key blank w rest) 0 val s k = .ok s := by
  rw [branch, cString_key hkey]
  exact if_neg hne

lemma branch_of_bounded (hkey : 0 ∉ key) (hname : key = k.name) (hw : 0 ∉ w) (hbounded : Bounded w) :
    branch (cut key blank w rest) 0 (key.length + 1 + blank.length) s k = .ok (s.put (coded k w) k) := by
  rw [branch, cString_key hkey]
  show (if key = k.name then _ else _) = _
  rw [if_pos hname, cString_val hw]
  show (Nmea.str2int _ _ (key.length + 1 + blank.length + w.length - 1) >>= _) = _
  rw [str2int_cut hbounded]
  rfl

lemma branch_of_overflow (hkey : 0 ∉ key) (hname : key = k.name) (hw : 0 ∉ w) (hbounded : ¬ Bounded w) :
    ∃ e, branch (cut key blank w rest) 0 (key.length + 1 + blank.length) s k = .error e := by
  rw [branch, cString_key hkey]
  show ∃ e, (if key = k.name then _ else _) = _
  rw [if_pos hname, cString_val hw]
  show ∃ e, (Nmea.str2int _ _ (key.length + 1 + blank.length + w.length - 1) >>= _) = _
  obtain ⟨z, hz⟩ := str2int_cut_overflow hbounded
  rw [hz]
  exact ⟨.overflow z, rfl⟩

lemma foldlM_branch_of_ne (hkey : 0 ∉ key) {ks : List Key} (hne : ∀ k ∈ ks, key ≠ k.name) (val : ℕ) :
    ks.foldlM (branch (cut key blank w rest) 0 val) s = .ok s := by
  induction ks with
  | nil => rfl
  | cons k ks ih =>
    rw [forall_mem_cons] at hne
    rw [foldlM_cons, branch_of_ne hkey hne.1]
    exact ih hne.2

/-- **The branch of the key** is the only one that does something. -/
lemma branches_of_name (hkey : 0 ∉ key) (hname : key = k.name) (val : ℕ) :
    branches (cut key blank w rest) 0 val s = branch (cut key blank w rest) 0 val s k := by
  obtain ⟨before, after, hks⟩ := append_of_mem (mem_keys k)
  have hnodup : keys.Nodup := by decide
  rw [hks, nodup_middle, nodup_cons, mem_append, not_or] at hnodup
  obtain ⟨⟨hbefore, hafter⟩, -⟩ := hnodup
  have hother {ks : List Key} (hks : k ∉ ks) : ∀ k' ∈ ks, key ≠ k'.name := by
    intro k' hk' hname'
    exact hks (Key.name_injective (hname.symm.trans hname') ▸ hk')
  rw [branches, hks, foldlM_append, foldlM_branch_of_ne hkey (hother hbefore)]
  show (branch (cut key blank w rest) 0 val s k >>= fun s => after.foldlM _ s) = _
  cases branch (cut key blank w rest) 0 val s k with
  | error e => rfl
  | ok s' => exact foldlM_branch_of_ne hkey (hother hafter) val

end Branch

/-! ## Lines one after the other -/

/-- What a line does to the variables; `none` if its number overflows. -/
def applyLine (s : Settings) (l : ConfLine) : Option Settings :=
  match l.line with
  | .comment _ => some s
  | .setting key value =>
    match keys.find? fun k => key = k.name with
    | none => some s
    | some k => if Bounded (word value) then some (s.put (coded k (word value)) k) else none

/-- The variables and the return value, or something undefined. -/
def Ends (x : Option (Except Undefined (Settings × ℤ))) : Option Settings → Prop
  | some s => x = some (.ok (s, s.gpsEpoEnable))
  | none => ∃ e, x = some (.error e)

lemma zero_notMem_word {value : List UInt8} (h : 0 ∉ value) : 0 ∉ word value :=
  fun hw => h ((dropWhile_sublist _).subset ((takeWhile_sublist _).subset hw))

lemma branches_line {l : ConfLine} {key value : List UInt8} (hl : l.line = .setting key value) (blank rest : List UInt8)
    (s : Settings) :
    match applyLine s l with
    | some s' => branches (cut key blank (word value) rest) 0 (key.length + 1 + blank.length) s = .ok s'
    | none => ∃ e, branches (cut key blank (word value) rest) 0 (key.length + 1 + blank.length) s = .error e := by
  have hzero := l.zero_notMem
  rw [hl, Line.text, mem_append, mem_cons, not_or, not_or] at hzero
  have hkey := hzero.1
  have hword : 0 ∉ word value := zero_notMem_word hzero.2.2
  rw [applyLine, hl]
  dsimp only
  cases hfind : keys.find? fun k => key = k.name with
  | none =>
    refine foldlM_branch_of_ne hkey (fun k hk hname => ?_) _
    have hnot := find?_eq_none.mp hfind k hk
    exact hnot (decide_eq_true hname)
  | some k =>
    have hfound := find?_some hfind
    have hname : key = k.name := of_decide_eq_true hfound
    dsimp only
    rw [branches_of_name hkey hname]
    by_cases hbounded : Bounded (word value)
    · rw [if_pos hbounded]
      exact branch_of_bounded hkey hname hword hbounded
    · rw [if_neg hbounded]
      exact branch_of_overflow hkey hname hword hbounded

lemma text_ne_nil (l : ConfLine) : l.line.text ≠ [] := by
  cases l.line with
  | comment text => exact cons_ne_nil _ _
  | setting key value => simp [Line.text]

lemma length_ended_lt (l : ConfLine) (newline : Bool) : (ended l.line.text newline).length < confFileSize := by
  have hlt := l.length_lt
  cases newline with
  | true =>
    rw [ended, length_append]
    exact hlt
  | false =>
    rw [ended, length_append]
    exact (Nat.lt_succ_self _).trans hlt

variable {newline : Bool}

lemma fgetsLine_ended {text rest : List UInt8} {n : ℕ} (htext : 10 ∉ text)
    (hn : (ended text newline).length ≤ n) (hrest : newline = false → rest = []) :
    fgetsLine n (ended text newline ++ rest) = (ended text newline, rest) := by
  induction text generalizing n with
  | nil =>
    cases newline with
    | true =>
      obtain ⟨m, rfl⟩ : ∃ m, n = m + 1 := ⟨n - 1, by simp [ended] at hn; omega⟩
      rfl
    | false =>
      rw [hrest rfl]
      cases n <;> rfl
  | cons c text ih =>
    obtain ⟨m, rfl⟩ : ∃ m, n = m + 1 := ⟨n - 1, by simp [ended] at hn; omega⟩
    rw [mem_cons, not_or] at htext
    show fgetsLine (m + 1) (c :: (ended text newline ++ rest)) = (c :: ended text newline, rest)
    rw [fgetsLine, if_neg (Ne.symm htext.1), ih htext.2 (Nat.le_of_succ_le_succ hn)]

variable {buf w : List UInt8}

lemma fgets_of_line {rest : List UInt8} {l : ConfLine} (hbuf : buf.length = confFileSize)
    (hrest : newline = false → rest = []) :
    ∃ rest', fgets buf (ended l.line.text newline ++ rest) = some (ended l.line.text newline ++ 0 :: rest', rest) ∧
      (ended l.line.text newline ++ 0 :: rest').length = confFileSize := by
  have hpatch : ∀ line : List UInt8, patch buf 0 (line ++ [0]) = line ++ 0 :: buf.drop (line.length + 1) := by
    intro line
    rw [patch, take_zero, nil_append, Nat.zero_add, length_append, append_assoc]
    rfl
  have hne : ended l.line.text newline ++ rest ≠ [] := by
    rw [ended, append_assoc]
    exact append_ne_nil_of_left_ne_nil (text_ne_nil l) _
  have hlt := length_ended_lt l newline
  have hline := fgetsLine_ended l.newline_notMem (Nat.le_sub_one_of_lt hlt) hrest
  refine ⟨buf.drop ((ended l.line.text newline).length + 1), ?_, ?_⟩
  · rw [fgets, if_neg hne, hbuf, hline]
    dsimp only
    rw [hpatch]
  · rw [length_append, length_cons, length_drop]
    omega

/-- **The next line** is in the buffer, with its terminator. -/
lemma fgets_file (hbuf : buf.length = confFileSize) (l : ConfLine) (ls : List ConfLine)
    (newline : Bool) :
    ∃ newline' rest, fgets buf (fileOf (l :: ls) newline)
        = some (ended l.line.text newline' ++ 0 :: rest, fileOf ls newline) ∧
      (ended l.line.text newline' ++ 0 :: rest).length = confFileSize := by
  cases ls with
  | nil =>
    have hfile : fileOf [l] newline = ended l.line.text newline ++ [] := (append_nil _).symm
    refine ⟨newline, ?_⟩
    rw [hfile]
    exact fgets_of_line hbuf fun _ => rfl
  | cons l' ls =>
    have hfile : fileOf (l :: l' :: ls) newline = ended l.line.text true ++ fileOf (l' :: ls) newline := by
      rw [fileOf, ended, if_pos rfl, append_assoc]
      rfl
    refine ⟨true, ?_⟩
    rw [hfile]
    exact fgets_of_line hbuf fun h => Bool.noConfusion h

/-- **What a file does is what its lines do**, one after the other. -/
lemma readLoop_eq {ls : List ConfLine} {fuel : ℕ} {s : Settings}
    (hfuel : ls.length < fuel) (hbuf : buf.length = confFileSize) :
    Ends (readLoop fuel buf (fileOf ls newline) s) (ls.foldlM applyLine s) := by
  induction ls generalizing fuel buf s with
  | nil =>
    obtain ⟨n, rfl⟩ : ∃ n, fuel = n + 1 := ⟨fuel - 1, by simp at hfuel; omega⟩
    rfl
  | cons l ls ih =>
    rw [length_cons] at hfuel
    obtain ⟨n, rfl⟩ : ∃ n, fuel = n + 1 := ⟨fuel - 1, by omega⟩
    obtain ⟨newline', rest, hfgets, hlen⟩ := fgets_file hbuf l ls newline
    rw [foldlM_cons, readLoop, hfgets]
    dsimp only
    cases hl : l.line with
    | comment text =>
      have happly : applyLine s l = some s := by rw [applyLine, hl]
      rw [← hl, getVal_comment hl newline', happly]
      exact ih (by omega) hlen
    | setting key value =>
      obtain ⟨blank, rest', hget, hlen'⟩ := @getVal_setting rest key value l hl newline'
      have hbranches := branches_line hl blank rest' s
      rw [← hl, hget]
      dsimp only
      cases happly : applyLine s l with
      | some s' =>
        rw [happly] at hbranches
        rw [hbranches]
        exact ih (by omega) (hlen'.trans hlen)
      | none =>
        rw [happly] at hbranches
        obtain ⟨e, he⟩ := hbranches
        rw [he]
        exact ⟨e, rfl⟩

lemma values_cons (k : Key) (l : ConfLine) (ls : List ConfLine) :
    values k (l :: ls) = (valueFor k l).toList ++ values k ls := by
  rw [values, filterMap_cons]
  cases valueFor k l with
  | none => rfl
  | some w => rfl

lemma applyLine_spec (s : Settings) (l : ConfLine) :
    match applyLine s l with
    | some s' => (∀ k, ∀ w ∈ valueFor k l, Bounded w) ∧ ∀ k, s'.get k = (valueFor k l).elim (s.get k) (coded k)
    | none => ∃ k, ∃ w ∈ valueFor k l, ¬ Bounded w := by
  unfold applyLine valueFor
  cases l.line with
  | comment text => exact ⟨fun _ _ hw => absurd hw (not_mem_none _), fun _ => rfl⟩
  | setting key value =>
    dsimp only
    cases hfind : keys.find? fun k => key = k.name with
    | none =>
      have hne : ∀ k : Key, key ≠ k.name := by
        intro k hname
        have hnot := find?_eq_none.mp hfind k (mem_keys k)
        exact hnot (decide_eq_true hname)
      simp [hne]
    | some k =>
      have hfound := find?_some hfind
      have hname : key = k.name := of_decide_eq_true hfound
      have hother : ∀ k', (key = k'.name) ↔ k' = k := by
        intro k'
        constructor
        · exact fun h => Key.name_injective (h.symm.trans hname)
        · rintro rfl
          exact hname
      dsimp only
      by_cases hbounded : Bounded (word value)
      · rw [if_pos hbounded]
        refine ⟨fun k' w hw => ?_, fun k' => ?_⟩
        · rw [mem_def, ite_none_right_eq_some] at hw
          exact Option.some.inj hw.2 ▸ hbounded
        · rw [Settings.get_put]
          by_cases hk : k' = k
          · rw [if_pos hk, if_pos ((hother k').mpr hk), hk]
            rfl
          · rw [if_neg hk, if_neg fun h => hk ((hother k').mp h)]
            rfl
      · rw [if_neg hbounded]
        exact ⟨k, word value, by rw [if_pos hname]; rfl, hbounded⟩

/-- **The lines together**: the last value of each key counts. -/
lemma foldlM_applyLine_spec (s : Settings) (ls : List ConfLine) :
    match ls.foldlM applyLine s with
    | some s' => (∀ k, ∀ w ∈ values k ls, Bounded w) ∧ ∀ k, s'.get k = heldAfter coded k ls s
    | none => ∃ k, ∃ w ∈ values k ls, ¬ Bounded w := by
  induction ls generalizing s with
  | nil => exact ⟨fun _ _ hw => absurd hw not_mem_nil, fun _ => rfl⟩
  | cons l ls ih =>
    have hline := applyLine_spec s l
    rw [foldlM_cons]
    cases happly : applyLine s l with
    | none =>
      rw [happly] at hline
      obtain ⟨k, w, hw, hnot⟩ := hline
      refine ⟨k, w, ?_, hnot⟩
      rw [values_cons, mem_append]
      exact .inl (mem_toList.mpr hw)
    | some s' =>
      rw [happly] at hline
      obtain ⟨hbounded, hget⟩ := hline
      have hrest := ih s'
      show match ls.foldlM applyLine s' with
        | some s'' => (∀ k, ∀ w ∈ values k (l :: ls), Bounded w) ∧ ∀ k, s''.get k = heldAfter coded k (l :: ls) s
        | none => ∃ k, ∃ w ∈ values k (l :: ls), ¬ Bounded w
      cases hfold : ls.foldlM applyLine s' with
      | none =>
        rw [hfold] at hrest
        obtain ⟨k, w, hw, hnot⟩ := hrest
        exact ⟨k, w, by rw [values_cons, mem_append]; exact .inr hw, hnot⟩
      | some s'' =>
        rw [hfold] at hrest
        refine ⟨fun k w hw => ?_, fun k => ?_⟩
        · rw [values_cons, mem_append, mem_toList] at hw
          exact hw.elim (hbounded k w) (hrest.1 k w)
        · rw [hrest.2 k, heldAfter, heldAfter, values_cons, getLast?_append, hget k]
          cases (values k ls).getLast? with
          | none =>
            cases valueFor k l with
            | none | some => rfl
          | some w => rfl

/-! ## Values with and without their last character -/

lemma decimal_concat (ds : List UInt8) (c : UInt8) : decimal (ds ++ [c]) = decimal ds * 10 + (c.toNat - 48) := by
  rw [decimal, decimalFrom, foldl_append]
  rfl

lemma numeral_dropLast (hw : Numeral w) (h : unsignedPart w.dropLast = (unsignedPart w).dropLast) :
    Numeral w.dropLast := by
  rw [Numeral, h]
  exact fun c hc => hw c ((dropLast_sublist _).subset hc)

lemma numeralValue_dropLast (hw : Decimal w) :
    Numeral w.dropLast ∧ ∃ n d : ℕ,
      (numeralValue w = 10 * n + d ∧ numeralValue w.dropLast = n) ∨
        (numeralValue w = -(10 * n + d : ℤ) ∧ numeralValue w.dropLast = -n) := by
  obtain ⟨hnumeral, hne⟩ := hw
  obtain ⟨init, c, hparts⟩ : ∃ init c, unsignedPart w = init ++ [c] :=
    ⟨_, _, (dropLast_append_getLast hne).symm⟩
  have hvalue := decimal_concat init c
  rw [← hparts] at hvalue
  by_cases hminus : w.head? = some 45
  · -- the sign stays
    obtain ⟨ds, rfl⟩ : ∃ ds, w = 45 :: ds := List.head?_eq_some_iff.mp hminus
    have hds : ds = init ++ [c] := hparts
    have hdrop : (45 :: ds : List UInt8).dropLast = 45 :: init := by
      rw [hds, ← cons_append, dropLast_concat]
    have hpart : unsignedPart (45 :: init) = init := rfl
    refine ⟨numeral_dropLast hnumeral ?_, decimal init, c.toNat - 48, .inr ⟨?_, ?_⟩⟩
    · rw [hdrop, hpart, hparts, dropLast_concat]
    · rw [numeralValue, if_pos hminus, hvalue]
      omega
    · rw [hdrop, numeralValue, if_pos head?_cons, hpart]
  · have hw : unsignedPart w = w := if_neg hminus
    rw [hw] at hparts
    have hdrop : w.dropLast = init := by rw [hparts, dropLast_concat]
    have hminus' : init.head? ≠ some 45 := by
      intro h
      rw [hparts, head?_append, h] at hminus
      exact hminus rfl
    have hpart : unsignedPart init = init := if_neg hminus'
    refine ⟨numeral_dropLast hnumeral ?_, decimal init, c.toNat - 48, .inl ⟨?_, ?_⟩⟩
    · rw [hdrop, hpart, hw, ← hdrop]
    · rw [numeralValue, if_neg hminus, hvalue]
      omega
    · rw [hdrop, numeralValue, if_neg hminus', hpart]

lemma not_allowed_neg_one (k : Key) : ¬ k.Allowed (-1) := by
  cases k <;> decide

lemma coded_eq (k : Key) (w : List UInt8) :
    coded k w = if Numeral w.dropLast ∧ k.Allowed (numeralValue w.dropLast) then numeralValue w.dropLast
      else k.fallback := by
  unfold coded
  by_cases hnumeral : Numeral w.dropLast
  · simp [hnumeral]
  · simp [hnumeral, not_allowed_neg_one k]

lemma eq_zero_iff_dropLast (hw : Decimal w) :
    numeralValue w = 0 ↔ numeralValue w.dropLast = numeralValue w := by
  obtain ⟨-, n, d, ⟨hv, ht⟩ | ⟨hv, ht⟩⟩ := numeralValue_dropLast hw
  · omega
  · omega

lemma keep_or_fallback (k : Key) {P : Prop} [Decidable P] (v : ℤ) :
    (if P ∧ k.Allowed v then v else k.fallback) = if P ∧ k.Keeps v then v else k.fallback := by
  by_cases hv : v = k.fallback
  · rw [← hv, ite_self, ite_self]
  · exact if_congr (by simp [Key.Keeps, hv]) rfl rfl

/-- **The cut is harmless** exactly then. -/
lemma coded_eq_denoted_iff (k : Key) (w : List UInt8) : coded k w = denoted k w ↔ Indifferent k w := by
  rw [coded_eq, denoted, keep_or_fallback, keep_or_fallback, Indifferent]
  by_cases hw : Decimal w ∧ k.Keeps (numeralValue w)
  · rw [if_pos hw]
    have hzero := eq_zero_iff_dropLast hw.1
    constructor
    · intro heq
      split_ifs at heq with ht
      · exact .inl ⟨hw.1, hzero.mpr heq⟩
      · exact absurd heq.symm hw.2.2
    · rintro (⟨-, hv⟩ | ⟨hno, -⟩)
      · have hsame := hzero.mp hv
        rw [if_pos ⟨(numeralValue_dropLast hw.1).1, hsame ▸ hw.2⟩, hsame]
      · exact absurd hw hno
  · rw [if_neg hw]
    constructor
    · intro heq
      refine .inr ⟨hw, fun ht => ?_⟩
      rw [if_pos ht] at heq
      exact ht.2.2 heq
    · rintro (⟨hdecimal, hv⟩ | ⟨-, hno⟩)
      · have hsame := (eq_zero_iff_dropLast hdecimal).mp hv
        rw [if_neg fun ht => hw ⟨hdecimal, hsame ▸ ht.2⟩]
      · rw [if_neg hno]

/-! ## Files -/

lemma length_le_fileOf (ls : List ConfLine) (newline : Bool) : ls.length ≤ (fileOf ls newline).length := by
  induction ls with
  | nil => exact le_rfl
  | cons l ls ih =>
    have hpos := length_pos_of_ne_nil (text_ne_nil l)
    cases ls with
    | nil =>
      rw [fileOf, length_append, length_singleton]
      omega
    | cons l' ls =>
      simp only [fileOf, length_append, length_cons] at ih ⊢
      omega

/-- **The configuration is read as it is written**: for every file of comments and settings, with a newline at its end
or without, and whatever the variables held before, each of them holds what the last line of its key says, iff no
number overflows and the last values are such that their last character makes no difference. -/
theorem epoConf_exact_iff (ls : List ConfLine) (newline : Bool) (s : Settings) (fuel : ℕ)
    (hfuel : (fileOf ls newline).length < fuel) :
    (∃ s', gpsDownloadEpoEnable fuel (some (fileOf ls newline)) s = some (.ok (s', s'.gpsEpoEnable)) ∧
        ∀ k, s'.get k = heldAfter denoted k ls s) ↔
      (∀ k, ∀ w ∈ values k ls, Bounded w) ∧ ∀ k, ∀ w ∈ (values k ls).getLast?, Indifferent k w := by
  have hends : Ends (gpsDownloadEpoEnable fuel (some (fileOf ls newline)) s) (ls.foldlM applyLine s) :=
    readLoop_eq ((length_le_fileOf ls newline).trans_lt hfuel) (length_replicate)
  have hspec := foldlM_applyLine_spec s ls
  cases hfold : ls.foldlM applyLine s with
  | none =>
    rw [hfold] at hends hspec
    obtain ⟨e, he⟩ := hends
    obtain ⟨k, w, hw, hnot⟩ := hspec
    refine iff_of_false ?_ fun h => hnot (h.1 k w hw)
    rintro ⟨s', hs', -⟩
    rw [he] at hs'
    cases hs'
  | some s₁ =>
    rw [hfold] at hends hspec
    obtain ⟨hbounded, hget⟩ := hspec
    have hagree : (∀ k, heldAfter coded k ls s = heldAfter denoted k ls s) ↔
        ∀ k, ∀ w ∈ (values k ls).getLast?, Indifferent k w := by
      refine forall_congr' fun k => ?_
      unfold heldAfter
      cases (values k ls).getLast? with
      | none => simp
      | some w =>
        rw [elim_some, elim_some, coded_eq_denoted_iff]
        simp
    rw [← hagree]
    constructor
    · rintro ⟨s', hs', hget'⟩
      have hsame := Option.some.inj (hends.symm.trans hs')
      simp only [Except.ok.injEq, Prod.mk.injEq] at hsame
      exact ⟨hbounded, fun k => by rw [← hget k, hsame.1, hget' k]⟩
    · rintro ⟨-, heq⟩
      exact ⟨s₁, hends, fun k => (hget k).trans (heq k)⟩

/-- `WIFI_EPO_PERIOD=0`, without a newline: a value that is not allowed, also without its last character. -/
theorem epoConf_exact_wifiPeriod :
    (fileOf [⟨.setting Key.wifiEpoPeriod.name [48], by decide, by decide, by decide, by decide⟩] false).length < 20 ∧
      ∃ s', gpsDownloadEpoEnable 20
          (some (fileOf [⟨.setting Key.wifiEpoPeriod.name [48], by decide, by decide, by decide, by decide⟩] false))
          ⟨1, 30, 3, 15, 0⟩ = some (.ok (s', s'.gpsEpoEnable)) ∧ s'.wifiEpoPeriod = 1 := by
  refine ⟨by decide, ?_⟩
  have hcondition : ∀ k : Key,
      (∀ w ∈ values k [⟨.setting Key.wifiEpoPeriod.name [48], by decide, by decide, by decide, by decide⟩], Bounded w) ∧
        ∀ w ∈ (values k [⟨.setting Key.wifiEpoPeriod.name [48], by decide, by decide, by decide, by decide⟩]).getLast?,
          Indifferent k w := by
    intro k
    cases k <;> decide
  obtain ⟨s', hrun, hget⟩ := (epoConf_exact_iff
    [⟨.setting Key.wifiEpoPeriod.name [48], by decide, by decide, by decide, by decide⟩] false ⟨1, 30, 3, 15, 0⟩ 20
    (by decide)).mpr ⟨fun k => (hcondition k).1, fun k => (hcondition k).2⟩
  exact ⟨s', hrun, hget .wifiEpoPeriod⟩

/-- `EPO_ENABLE=1` turns it off. -/
theorem enable_one_disables :
    gpsDownloadEpoEnable 20
        (some (fileOf [⟨.setting Key.epoEnable.name [49], by decide, by decide, by decide, by decide⟩] true))
        ⟨1, 30, 3, 1, 0⟩ = some (.ok (⟨0, 30, 3, 1, 0⟩, 0)) ∧
      ¬ ∃ s', gpsDownloadEpoEnable 20
          (some (fileOf [⟨.setting Key.epoEnable.name [49], by decide, by decide, by decide, by decide⟩] true))
          ⟨1, 30, 3, 1, 0⟩ = some (.ok (s', s'.gpsEpoEnable)) ∧
        ∀ k, s'.get k = heldAfter denoted k
          [⟨.setting Key.epoEnable.name [49], by decide, by decide, by decide, by decide⟩] ⟨1, 30, 3, 1, 0⟩ := by
  refine (and_iff_left_of_imp fun hrun => ?_).mpr (by decide +kernel)
  rintro ⟨s', hs', hget⟩
  rw [hrun] at hs'
  cases hs'
  exact absurd (hget .epoEnable) (by decide)

end Hal.EpoConf
