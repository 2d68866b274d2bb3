import DeviceHal.Core.Keyed
import DeviceHal.Core.Ucs2
import DeviceHal.Gps.FromMnld

/-!
# The texts of a notification

The requestor and the client of a notification come from `mnld` in ASCII and go to the framework as UCS-2 written in
hexadecimal: `asc_str_to_usc2_str` into a buffer of its own, `raw_data_to_hex_string` from there.  The functions are
those of `Hal.FromMnld`; here is what they compute, for buffers of any size with anything in them.

**The defect.**  The two zeros behind the text are written at `len + 1` and `len + 2`.  The byte at `len` keeps what was
there, and a buffer with room for the text and its terminator, but no more, is overrun by one byte.

* `ascLoop_eq`, `hexLoop_eq` — what the two loops write, from anywhere on.
* **`ucs2Text_right_iff`** — when the text, its length, its terminator and what is decoded from it are right.
* `hexText_eq` — in the handler the buffers are cleared, so every text that fits is shown as it should be.
-/

namespace Hal.FromMnld

open List

/-- A string in ASCII, without its terminator. -/
structure AsciiString where
  chars : List UInt8
  zero_notMem : 0 ∉ chars
  ascii : ∀ c ∈ chars, c < 128

namespace AsciiString

/-- What the pointer points to: behind the terminator there may be anything. -/
def memory (s : AsciiString) (rest : List UInt8) : List UInt8 := s.chars ++ 0 :: rest

/-- The byte-order mark and the code units. -/
def ucs2 (s : AsciiString) : List UInt8 := Ucs2.encode (Ucs2.ofAscii s.chars)

end AsciiString

/-- **What the two calls are for**: the digits are those of the encoded text, the length is its length, the terminator
is right behind it, and the digits are decoded to the string. -/
structure IsUcs2Text (s : AsciiString) (ucs2Buff : List UInt8) (usc2Len : ℕ) (output : List UInt8) : Prop where
  text : output.take (2 * usc2Len) = Hex.text s.ucs2
  len : usc2Len = s.ucs2.length
  terminator : slice ucs2Buff usc2Len 2 = [0, 0]
  decoded : (Hex.decode (output.take (2 * usc2Len))).bind Ucs2.decode = some (Ucs2.ofAscii s.chars)

/-! ## The loops -/

section Loops

open Writer

variable {bs buff : List UInt8}

lemma store_pair_overwrite {β : Type} {x y : UInt8} (h : bs.length + 2 ≤ buff.length)
    (f : List UInt8 → Except Fault β) :
    (store (overwrite buff bs).buff bs.length [x] >>= fun buff => store buff (bs.length + 1) [y] >>= f)
      = f (overwrite buff (bs ++ [x, y])).buff := by
  have hfirst : (bs ++ [x]).length ≤ buff.length := by
    rw [length_append, length_singleton]
    omega
  have hsecond : (bs ++ [x] ++ [y]).length ≤ buff.length := by
    rw [length_append, length_append, length_singleton, length_singleton]
    omega
  have hstore := store_overwrite hsecond
  rw [length_append, length_singleton, append_assoc] at hstore
  rw [store_overwrite hfirst]
  show (store (overwrite buff (bs ++ [x])).buff (bs.length + 1) [y] >>= f) = _
  rw [hstore]
  rfl

lemma ascLoop_eq {chars rest : List UInt8} (hzero : 0 ∉ chars) (hroom : bs.length + 2 * chars.length ≤ buff.length) :
    ascLoop (overwrite buff bs).buff bs.length (chars ++ 0 :: rest)
      = .ok ((overwrite buff (bs ++ chars.flatMap fun c => [0, c])).buff, bs.length + 2 * chars.length) := by
  induction chars generalizing bs with
  | nil => rw [nil_append, ascLoop_zero, flatMap_nil, append_nil, length_nil, Nat.mul_zero]; rfl
  | cons c chars ih =>
    rw [mem_cons, not_or] at hzero
    rw [length_cons] at hroom
    have hlen : (bs ++ [0, c]).length = bs.length + 2 := length_append
    have hnext := ih hzero.2 (show (bs ++ [0, c]).length + 2 * chars.length ≤ buff.length by omega)
    rw [append_assoc, hlen] at hnext
    rw [cons_append, ascLoop_cons (Ne.symm hzero.1), store_pair_overwrite (by omega), hnext, flatMap_cons,
      length_cons]
    congr 2
    omega

lemma hexLoop_eq {input : List UInt8} {i : ℕ} (hi : bs.length = i * 2)
    (hroom : bs.length + 2 * input.length ≤ buff.length) :
    hexLoop (overwrite buff bs).buff i input = .ok (overwrite buff (bs ++ Hex.text input)).buff := by
  induction input generalizing bs i with
  | nil => rw [hexLoop, Hex.text, flatMap_nil, append_nil]
  | cons b input ih =>
    rw [length_cons] at hroom
    have hlen : ∀ x y : UInt8, (bs ++ [x, y]).length = bs.length + 2 := fun _ _ => length_append
    rw [hexLoop, ← hi, store_pair_overwrite (by omega), ih (by rw [hlen]; omega) (by rw [hlen]; omega), append_assoc]
    rfl

lemma overwrite_skip {b : UInt8} (h : buff[bs.length]? = some b) :
    (overwrite buff bs).buff = (overwrite buff (bs ++ [b])).buff := by
  obtain ⟨hlt, rfl⟩ := List.getElem?_eq_some_iff.mp h
  show bs ++ buff.drop bs.length = bs ++ [_] ++ buff.drop (bs ++ [_]).length
  rw [drop_eq_getElem_cons hlt, length_append, length_singleton, append_assoc, singleton_append]

end Loops

/-! ## The two calls -/

section Calls

open Writer

variable {s : AsciiString} {output rest : List UInt8}

lemma AsciiString.length_ucs2 (s : AsciiString) : s.ucs2.length = 2 + 2 * s.chars.length := by
  have hchars : ∀ chars : List UInt8, (chars.flatMap fun c => [0, c]).length = 2 * chars.length := by
    intro chars
    induction chars with
    | nil => rfl
    | cons c chars ih =>
      rw [flatMap_cons, length_append, ih]
      show 2 + 2 * chars.length = 2 * (chars.length + 1)
      omega
  rw [ucs2, Ucs2.encode_ofAscii, length_cons, length_cons, hchars]
  omega

/-- The text is written, and what comes behind it is left to the two last stores. -/
lemma ascStrToUsc2Str_text (hroom : s.ucs2.length ≤ output.length) :
    ascStrToUsc2Str output (s.memory rest)
      = (store (overwrite output s.ucs2).buff (s.ucs2.length + 1) [0] >>= fun out =>
          store out (s.ucs2.length + 2) [0] >>= fun out => .ok (out, s.ucs2.length)) := by
  have hlen := s.length_ucs2
  have hucs2 : [0xfe, 0xff] ++ (s.chars.flatMap fun c => [0, c]) = s.ucs2 := (Ucs2.encode_ofAscii s.chars).symm
  have hloop : ascLoop (overwrite output [0xfe, 0xff]).buff 2 (s.memory rest)
      = .ok ((overwrite output s.ucs2).buff, s.ucs2.length) := by
    rw [hlen, ← hucs2]
    exact ascLoop_eq s.zero_notMem (show 2 + 2 * s.chars.length ≤ output.length by omega)
  have hmark : ascStrToUsc2Str output (s.memory rest)
      = (ascLoop (overwrite output [0xfe, 0xff]).buff 2 (s.memory rest) >>= fun p =>
          store p.1 (p.2 + 1) [0] >>= fun out => store out (p.2 + 2) [0] >>= fun out => .ok (out, p.2)) :=
    store_pair_overwrite (show ([] : List UInt8).length + 2 ≤ output.length by rw [length_nil]; omega) _
  rw [hmark, hloop]
  rfl

/-- **The first call**, with a byte more than the text and its terminator need: the zeros are one place behind the
text. -/
lemma ascStrToUsc2Str_eq {b : UInt8} (hroom : s.ucs2.length + 3 ≤ output.length)
    (hb : output[s.ucs2.length]? = some b) :
    ascStrToUsc2Str output (s.memory rest)
      = .ok ((overwrite output (s.ucs2 ++ [b, 0, 0])).buff, s.ucs2.length) := by
  rw [ascStrToUsc2Str_text (by omega), overwrite_skip hb]
  have hlen : (s.ucs2 ++ [b]).length = s.ucs2.length + 1 := length_append
  have hnext : s.ucs2.length + 2 = (s.ucs2 ++ [b]).length + 1 := by rw [hlen]
  rw [hnext, ← hlen, store_pair_overwrite (by omega), append_assoc]
  rfl

lemma ascStrToUsc2Str_overrun (hsize : output.length = s.ucs2.length + 2) :
    ascStrToUsc2Str output (s.memory rest) = .error (.store (s.ucs2.length + 2) 1 output.length) := by
  obtain ⟨b, hb⟩ : ∃ b, output[s.ucs2.length]? = some b := ⟨_, getElem?_eq_getElem (by omega)⟩
  have hlen : (s.ucs2 ++ [b]).length = s.ucs2.length + 1 := length_append
  have hlen' : (s.ucs2 ++ [b] ++ [0]).length = s.ucs2.length + 2 := by rw [length_append, hlen]; rfl
  have hstore : store (overwrite output (s.ucs2 ++ [b])).buff (s.ucs2 ++ [b]).length [0]
      = .ok (overwrite output (s.ucs2 ++ [b] ++ [0])).buff := store_overwrite (by omega)
  have hout : (overwrite output (s.ucs2 ++ [b] ++ [0])).buff.length = output.length := by
    show (s.ucs2 ++ [b] ++ [0] ++ output.drop _).length = _
    rw [length_append, length_drop, hlen']
    omega
  rw [hlen] at hstore
  rw [ascStrToUsc2Str_text (by omega), overwrite_skip hb, hstore]
  show (store _ (s.ucs2.length + 2) [0] >>= _) = _
  rw [store, if_neg (by rw [hout, length_singleton]; omega), hout]
  rfl

/-- **The second call** on a buffer that begins with the text. -/
lemma rawDataToHexString_eq {bs input : List UInt8} (hroom : 2 * bs.length ≤ output.length) :
    rawDataToHexString output (bs ++ input) bs.length = .ok (Hex.text bs ++ output.drop (2 * bs.length)) := by
  have hload : load (bs ++ input) 0 bs.length = .ok bs := by
    rw [load, if_pos (by simp), slice, drop_zero, take_left]
  have hloop : hexLoop (overwrite output []).buff 0 bs = .ok (overwrite output ([] ++ Hex.text bs)).buff :=
    hexLoop_eq rfl (by simpa using hroom)
  rw [rawDataToHexString, hload]
  show hexLoop (overwrite output []).buff 0 bs = _
  rw [hloop]
  show Except.ok (Hex.text bs ++ output.drop (Hex.text bs).length) = _
  rw [Hex.length_text]

end Calls

/-! ## The texts -/

open Writer in
/-- **The texts of a notification.**  For every string in ASCII and every pair of buffers that has room for the encoded
text with its terminator and for the digits: the two calls return with the text, its length and its terminator as they
should be, and the text can be decoded, **iff** the first buffer has one byte more than that and had a zero right behind
the text. -/
theorem ucs2Text_right_iff (s : AsciiString) {rest ucs2Buff output : List UInt8}
    (hucs2 : s.ucs2.length + 2 ≤ ucs2Buff.length) (houtput : (Hex.text s.ucs2).length ≤ output.length) :
    (∃ ucs2Buff' usc2Len output', ascStrToUsc2Str ucs2Buff (s.memory rest) = .ok (ucs2Buff', usc2Len)
        ∧ rawDataToHexString output ucs2Buff' usc2Len = .ok output' ∧ IsUcs2Text s ucs2Buff' usc2Len output')
      ↔ s.ucs2.length + 3 ≤ ucs2Buff.length ∧ ucs2Buff[s.ucs2.length]? = some 0 := by
  rw [Hex.length_text] at houtput
  by_cases hroom : s.ucs2.length + 3 ≤ ucs2Buff.length
  · obtain ⟨b, hb⟩ : ∃ b, ucs2Buff[s.ucs2.length]? = some b := ⟨_, getElem?_eq_getElem (by omega)⟩
    have hslice : slice (overwrite ucs2Buff (s.ucs2 ++ [b, 0, 0])).buff s.ucs2.length 2 = [b, 0] := by
      show ((s.ucs2 ++ [b, 0, 0] ++ _).drop s.ucs2.length).take 2 = _
      rw [append_assoc, drop_left]
      rfl
    have hraw : rawDataToHexString output (overwrite ucs2Buff (s.ucs2 ++ [b, 0, 0])).buff s.ucs2.length
        = .ok (Hex.text s.ucs2 ++ output.drop (2 * s.ucs2.length)) := by
      show rawDataToHexString output (s.ucs2 ++ [b, 0, 0] ++ _) s.ucs2.length = _
      rw [append_assoc, rawDataToHexString_eq houtput]
    have htake : (Hex.text s.ucs2 ++ output.drop (2 * s.ucs2.length)).take (2 * s.ucs2.length) = Hex.text s.ucs2 :=
      take_left' (Hex.length_text s.ucs2)
    rw [ascStrToUsc2Str_eq hroom hb, hb]
    constructor
    · rintro ⟨ucs2Buff', usc2Len, output', hok, -, hright⟩
      obtain ⟨rfl, rfl⟩ := Prod.mk.inj (Except.ok.inj hok)
      have hend := hslice.symm.trans hright.terminator
      exact ⟨hroom, congrArg some (List.cons.inj hend).1⟩
    · rintro ⟨-, hzero⟩
      cases hzero
      refine ⟨_, _, _, rfl, hraw, ⟨htake, rfl, hslice, ?_⟩⟩
      rw [htake, Hex.decode_text]
      exact Ucs2.decode_encode _
  · rw [ascStrToUsc2Str_overrun (by omega)]
    constructor
    · rintro ⟨ucs2Buff', usc2Len, output', hok, -⟩
      cases hok
    · exact fun h => absurd h.1 hroom

/-- `A` in a buffer of eight zeros. -/
theorem ucs2Text_right_zeroed : let s : AsciiString := ⟨[65], by decide, by simp⟩
    s.ucs2.length + 2 ≤ (padded 8 []).length ∧ (Hex.text s.ucs2).length ≤ (padded 9 []).length
      ∧ ∃ ucs2Buff' usc2Len output', ascStrToUsc2Str (padded 8 []) (s.memory []) = .ok (ucs2Buff', usc2Len)
        ∧ rawDataToHexString (padded 9 []) ucs2Buff' usc2Len = .ok output' ∧ IsUcs2Text s ucs2Buff' usc2Len output' :=
  ⟨by decide, by decide, (ucs2Text_right_iff _ (by decide) (by decide)).mpr ⟨by decide, by decide⟩⟩

/-- **The defect**: `A` takes four bytes and its terminator two.  In a buffer of eight bytes that was not cleared the
byte behind the text stays as it was, and a buffer of six bytes, of whatever content, is overrun. -/
theorem terminator_one_too_far : let s : AsciiString := ⟨[65], by decide, by simp⟩
    s.ucs2.length + 2 = 6
      ∧ ascStrToUsc2Str (List.replicate 8 0x20) (s.memory []) = .ok ([0xfe, 0xff, 0, 65, 0x20, 0, 0, 0x20], 4)
      ∧ ascStrToUsc2Str (List.replicate 6 0) (s.memory []) = .error (.store 6 1 6) := by
  decide

/-- **In the handler** both buffers are cleared before: a text that fits is shown as it should be, with zeros behind
it. -/
theorem hexText_eq {s : AsciiString} {size : ℕ} {rest : List UInt8} (hdisplays : Displays size (s.memory rest)) :
    hexText size (s.memory rest) = .ok (padded size (Hex.text s.ucs2)) := by
  obtain ⟨-, hroom, hsize⟩ := hdisplays
  have hlen : textLen (s.memory rest) = s.chars.length := by
    rw [textLen, AsciiString.memory, takeWhile_ne_append s.zero_notMem]
  have hucs2 := s.length_ucs2
  have hbuff : ∀ n, (padded n []).length = n := fun n => length_padded (Nat.zero_le n)
  have hzero : (padded 1024 [])[s.ucs2.length]? = some 0 := by
    show (List.replicate 1024 (0 : UInt8))[s.ucs2.length]? = some 0
    exact getElem?_replicate_of_lt (by omega)
  rw [hexText, ascStrToUsc2Str_eq (by rw [hbuff]; omega) hzero]
  show rawDataToHexString (padded size []) (s.ucs2 ++ [0, 0, 0] ++ _) s.ucs2.length = _
  rw [append_assoc, rawDataToHexString_eq (by rw [hbuff]; omega), padded, padded, Hex.length_text]
  show Except.ok (_ ++ (List.replicate size (0 : UInt8)).drop _) = _
  rw [drop_replicate]

theorem hexText_eq_letter : let s : AsciiString := ⟨[65], by decide, by simp⟩
    Displays 8 (s.memory []) ∧ hexText 8 (s.memory []) = .ok (padded 8 (Hex.text s.ucs2)) :=
  ⟨by decide, hexText_eq (by decide)⟩

end Hal.FromMnld
