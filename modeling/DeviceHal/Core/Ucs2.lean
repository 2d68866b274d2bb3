import Mathlib.Tactic.IntervalCases

/-!
# Texts in UCS-2, and bytes in hexadecimal

Two encodings that texts go through on their way: characters as big-endian pairs of bytes behind a byte-order mark, and
bytes as pairs of digits.  Each has a decoder that refuses what the encoder does not write.

* `Hex.decode_text` — the digits of bytes are read back as the bytes.
* `Ucs2.decode_encode` — the bytes of a text are read back as the text.
-/

namespace Hal

open List Option

/-! ## Hexadecimal -/

namespace Hex

def digit (n : ℕ) : UInt8 := if n ≤ 9 then UInt8.ofNat (n + 48) else UInt8.ofNat (n - 10 + 65)

/-- The number of a digit; small letters are digits too. -/
def value (c : UInt8) : Option ℕ :=
  if 48 ≤ c ∧ c ≤ 57 then some (c.toNat - 48)
  else if 65 ≤ c ∧ c ≤ 70 then some (c.toNat - 55)
  else if 97 ≤ c ∧ c ≤ 102 then some (c.toNat - 87)
  else none

/-- Two digits a byte, the high half first. -/
def text (bs : List UInt8) : List UInt8 := bs.flatMap fun b => [digit (b.toNat / 16), digit (b.toNat % 16)]

def decode : List UInt8 → Option (List UInt8)
  | [] => some []
  | [_] => none
  | c :: d :: cs =>
    (value c).bind fun high => (value d).bind fun low => (decode cs).map (UInt8.ofNat (16 * high + low) :: ·)

lemma value_digit {n : ℕ} (h : n < 16) : value (digit n) = some n := by
  interval_cases n <;> rfl

@[simp] lemma text_cons (b : UInt8) (bs : List UInt8) :
    text (b :: bs) = digit (b.toNat / 16) :: digit (b.toNat % 16) :: text bs := rfl

@[simp] lemma length_text (bs : List UInt8) : (text bs).length = 2 * bs.length := by
  induction bs with
  | nil => rfl
  | cons b bs ih =>
    rw [text_cons, length_cons, length_cons, length_cons, ih]
    omega

/-- **The digits of bytes are read back.** -/
theorem decode_text (bs : List UInt8) : decode (text bs) = some bs := by
  induction bs with
  | nil => rfl
  | cons b bs ih =>
    have hb := b.toNat_lt
    have hhalves : 16 * (b.toNat / 16) + b.toNat % 16 = b.toNat := Nat.div_add_mod b.toNat 16
    rw [text_cons, decode, value_digit (by omega), value_digit (by omega), ih, bind_some, bind_some,
      map_some, hhalves, UInt8.ofNat_toNat]

end Hex

/-! ## UCS-2 -/

namespace Ucs2

def unitBytes (u : UInt16) : List UInt8 := [UInt8.ofNat (u.toNat / 256), UInt8.ofNat u.toNat]

/-- The mark that tells the order of the bytes. -/
def byteOrderMark : UInt16 := 0xfeff

def encode (units : List UInt16) : List UInt8 := (byteOrderMark :: units).flatMap unitBytes

def unitsOf : List UInt8 → Option (List UInt16)
  | [] => some []
  | [_] => none
  | high :: low :: bs => (unitsOf bs).map (UInt16.ofNat (256 * high.toNat + low.toNat) :: ·)

def decode (bs : List UInt8) : Option (List UInt16) :=
  match unitsOf bs with
  | some (mark :: units) => if mark = byteOrderMark then some units else none
  | _ => none

lemma unitsOf_flatMap (units : List UInt16) : unitsOf (units.flatMap unitBytes) = some units := by
  induction units with
  | nil => rfl
  | cons u units ih =>
    have hu := u.toNat_lt
    have hhigh : (UInt8.ofNat (u.toNat / 256)).toNat = u.toNat / 256 := by
      rw [UInt8.toNat_ofNat']
      omega
    have hlow : (UInt8.ofNat u.toNat).toNat = u.toNat % 256 := UInt8.toNat_ofNat'
    have hbytes : 256 * (u.toNat / 256) + u.toNat % 256 = u.toNat := Nat.div_add_mod u.toNat 256
    show (unitsOf (units.flatMap unitBytes)).map _ = _
    rw [ih, map_some, hhigh, hlow, hbytes, UInt16.ofNat_toNat]

/-- **The bytes of a text are read back.** -/
theorem decode_encode (units : List UInt16) : decode (encode units) = some units := by
  rw [decode, encode, unitsOf_flatMap]
  exact if_pos rfl

def ofAscii (chars : List UInt8) : List UInt16 := chars.map UInt8.toUInt16

lemma unitBytes_toUInt16 (c : UInt8) : unitBytes c.toUInt16 = [0, c] := by
  have hc := c.toNat_lt
  have hzero : c.toNat / 256 = 0 := Nat.div_eq_of_lt hc
  rw [unitBytes, UInt8.toNat_toUInt16, hzero, UInt8.ofNat_toNat]
  rfl

lemma encode_ofAscii (chars : List UInt8) : encode (ofAscii chars) = 0xfe :: 0xff :: chars.flatMap fun c => [0, c] := by
  have hchars : (ofAscii chars).flatMap unitBytes = chars.flatMap fun c => [0, c] := by
    rw [ofAscii, flatMap_map]
    exact congrArg chars.flatMap (funext unitBytes_toUInt16)
  rw [encode, flatMap_cons, hchars]
  rfl

end Ucs2

end Hal
