import DeviceHal.Core.Copies
import DeviceHal.Gps.ToMnld

/-!
# Fields there and back

The putters `buff_put_int`, `buff_put_string`, `buff_put_binary` and `buff_put_struct` and the getters of the same
names are the two ends of one format.  A string and a binary block stand behind their length, an `int` and a struct
have a length that both sides know.

* `putFields`, `getFields` — the putters and the getters of a sequence of fields, one after the other.
* **`fields_roundTrip`** — what is put is what is got, up to the same offset, and other fields of the same types
  leave another buffer.
-/

namespace Hal.Fields

open List Writer FromMnld ToMnld

/-! ## The program -/

inductive Arg where
  | int (input : {x : ℤ // InInt x})
  | string (str : CString)
  | binary (input : CBlock)
  | struct (input : CBlock)

/-- The type of a field: the size of a struct is part of it. -/
inductive ArgType where
  | int
  | string
  | binary
  | struct (size : ℕ)

def Arg.type : Arg → ArgType
  | int _ => .int
  | string _ => .string
  | binary _ => .binary
  | struct input => .struct input.bytes.length

def putField : Arg → Writer → Except Fault Writer
  | .int input => buffPutInt input
  | .string str => buffPutString str
  | .binary input => buffPutBinary input.bytes input.bytes.length
  | .struct input => buffPutStruct input.bytes input.bytes.length

def putFields : List Arg → Writer → Except Fault Writer
  | [], w => .ok w
  | f :: fs, w => putField f w >>= putFields fs

/-- `buff_get_binary`, with what it returns. -/
def buffGetBinary (size : ℕ) (buff : List UInt8) : Scan (List UInt8 × ℤ) := do
  let len ← buffGetInt buff
  let bs ← scan buff (sizeT len)
  let output ← memcpy size bs
  return (output, len)

/-- What a getter leaves in the variable, and for a binary block the length that it returns. -/
inductive Got where
  | int (x : ℤ)
  | string (str : List UInt8)
  | binary (output : List UInt8) (len : ℤ)
  | struct (output : List UInt8)

/-- The getter of a type, for a string or a binary block with a variable of `room` bytes. -/
def getField (buff : List UInt8) (room : ℕ) : ArgType → Scan Got
  | .int => do
      let x ← buffGetInt buff
      return .int x
  | .string => do
      let str ← buffGetString room buff
      return .string str
  | .binary => do
      let (output, len) ← buffGetBinary room buff
      return .binary output len
  | .struct size => do
      let output ← buffGetStruct size buff
      return .struct output

def getFields (buff : List UInt8) : List (ArgType × ℕ) → Scan (List Got)
  | [] => pure []
  | (type, room) :: types => do
      let x ← getField buff room type
      let xs ← getFields buff types
      return x :: xs

/-! ## What they are for -/

def Arg.value : Arg → Got
  | int input => .int input
  | string str => .string (str.chars ++ [0])
  | binary input => .binary input.bytes input.bytes.length
  | struct input => .struct input.bytes

def Arg.sent : Arg → Sent
  | int input => .int input
  | string str => .string str
  | binary input => .binary input.bytes
  | struct input => .struct input.bytes

def encoding (fs : List Arg) : List UInt8 := encode (fs.map Arg.sent)

/-- The bytes that the variable of the reader needs. -/
def Arg.room : Arg → ℕ
  | string str => str.chars.length + 1
  | binary input => input.bytes.length
  | _ => 0

/-- The reader has the type of the argument, and a variable that holds it. -/
def Suits (f : Arg) (d : ArgType × ℕ) : Prop := d.1 = f.type ∧ f.room ≤ d.2

/-- A buffer.  No object is larger, and an offset is an `int`. -/
structure Buffer where
  bytes : List UInt8
  length_lt : bytes.length < 2147483648

theorem Arg.value_injective : Function.Injective Arg.value := by
  rintro (⟨x, hx⟩ | ⟨s, hs, hslen⟩ | ⟨b, hb⟩ | ⟨b, hb⟩) (⟨y, hy⟩ | ⟨t, ht, htlen⟩ | ⟨c, hc⟩ | ⟨c, hc⟩) h <;>
    simp [Arg.value] at h ⊢
  · exact h
  · exact h
  · exact h.1
  · exact h

lemma encoding_cons (f : Arg) (fs : List Arg) : encoding (f :: fs) = f.sent.bytes ++ encoding fs := rfl

/-! ## Putting -/

section Put

variable {buff bs : List UInt8}

lemma putCopy_overwrite {input : List UInt8} (hlt : input.length < 2 ^ 32) (h : (bs ++ input).length ≤ buff.length) :
    putCopy input input.length (overwrite buff bs) = .ok (overwrite buff (bs ++ input)) := by
  have hload : load input 0 input.length = .ok input := by
    rw [load, if_pos (by omega), slice, drop_zero, take_length]
  rw [putCopy, sizeT_natCast hlt, hload]
  exact put_overwrite h

lemma putPrefixed_overwrite {input : List UInt8} (hlt : input.length < 2 ^ 32)
    (h : (bs ++ (intBytes input.length ++ input)).length ≤ buff.length) :
    (buffPutInt input.length >=> putCopy input input.length) (overwrite buff bs)
      = .ok (overwrite buff (bs ++ (intBytes input.length ++ input))) := by
  rw [← append_assoc] at h ⊢
  have hlen : (bs ++ intBytes input.length).length ≤ buff.length := by
    rw [length_append] at h
    omega
  show buffPutInt input.length (overwrite buff bs) >>= putCopy input input.length = _
  rw [buffPutInt, put_overwrite hlen]
  exact putCopy_overwrite hlt h

lemma putField_overwrite {f : Arg} (h : (bs ++ f.sent.bytes).length ≤ buff.length) :
    putField f (overwrite buff bs) = .ok (overwrite buff (bs ++ f.sent.bytes)) := by
  cases f with
  | int x => exact put_overwrite h
  | string s =>
    have hlt : (s.chars ++ [0]).length < 2 ^ 32 := by simpa using s.length_lt
    have hlen : ((s.chars ++ [0]).length : ℤ) = s.chars.length + 1 := by simp
    have hfit : (bs ++ (intBytes (s.chars ++ [0]).length ++ (s.chars ++ [0]))).length ≤ buff.length := by
      rw [hlen]
      exact h
    have hput := putPrefixed_overwrite hlt hfit
    rwa [hlen] at hput
  | binary b => exact putPrefixed_overwrite b.length_lt h
  | struct b => exact putCopy_overwrite b.length_lt h

/-- **The putters leave the encoding**, over what was there. -/
lemma putFields_overwrite {fs : List Arg} (h : (bs ++ encoding fs).length ≤ buff.length) :
    putFields fs (overwrite buff bs) = .ok (overwrite buff (bs ++ encoding fs)) := by
  induction fs generalizing bs with
  | nil => rw [putFields, encoding, map_nil, encode, flatMap_nil, append_nil]
  | cons f fs ih =>
    rw [encoding_cons, ← append_assoc] at h ⊢
    have hfirst : (bs ++ f.sent.bytes).length ≤ buff.length := by
      rw [length_append] at h
      omega
    rw [putFields, putField_overwrite hfirst]
    exact ih h

end Put

/-! ## Getting -/

section Get

variable {buff : List UInt8} {offset : ℕ} {β : Type}

lemma memcpy_bind {room : ℕ} {bs : List UInt8} (h : bs.length ≤ room) (f : List UInt8 → Scan β) :
    ((memcpy room bs : Scan (List UInt8)) >>= f) offset = f bs offset := by
  rw [memcpy, if_pos h]
  rfl

lemma buffGetInt_bind {x : ℤ} (hx : InInt x) (hlie : LieAt buff offset (intBytes x)) (f : ℤ → Scan β) :
    (buffGetInt buff >>= f) offset = f x (offset + 4) := by
  rw [buffGetInt, bind_assoc, hlie.scan_bind (length_intBytes x), pure_bind, intOfBytes_intBytes hx.1 hx.2]

lemma getPrefixed_bind {bs : List UInt8} {room : ℕ} (hlt : bs.length < 2147483648) (hroom : bs.length ≤ room)
    (hlie : LieAt buff offset (intBytes bs.length ++ bs)) (f : ℤ → List UInt8 → Scan β) :
    (do let len ← buffGetInt buff
        let bs ← scan buff (sizeT len)
        let out ← memcpy room bs
        f len out : Scan β) offset
      = f bs.length bs (offset + (intBytes bs.length ++ bs).length) := by
  have hint : InInt bs.length := ⟨by omega, by exact_mod_cast hlt⟩
  have hbytes := hlie.right
  rw [length_intBytes] at hbytes
  rw [buffGetInt_bind hint hlie.left, sizeT_natCast (by omega), hbytes.scan_bind rfl, memcpy_bind hroom,
    length_append, length_intBytes, Nat.add_assoc]

lemma getField_lieAt {f : Arg} {d : ArgType × ℕ} (hd : Suits f d) (hlt : f.sent.bytes.length < 2147483648)
    (hlie : LieAt buff offset f.sent.bytes) :
    getField buff d.2 d.1 offset = .ok (f.value, offset + f.sent.bytes.length) := by
  obtain ⟨type, room⟩ := d
  obtain ⟨htype, hroom⟩ := hd
  subst htype
  cases f with
  | int x =>
    show (buffGetInt buff >>= fun x => pure (Got.int x)) offset = _
    rw [buffGetInt_bind x.2 hlie, Arg.sent, Sent.bytes, length_intBytes]
    rfl
  | string s =>
    have hlen : ((s.chars ++ [0]).length : ℤ) = s.chars.length + 1 := by simp
    have hfield : (Arg.string s).sent.bytes = intBytes (s.chars ++ [0]).length ++ (s.chars ++ [0]) := by
      rw [hlen]
      rfl
    rw [hfield] at hlie hlt ⊢
    have hbytes : (s.chars ++ [0]).length < 2147483648 := by
      rw [length_append] at hlt
      omega
    have hfits : (s.chars ++ [0]).length ≤ room := by
      rw [length_append]
      exact hroom
    show (buffGetString room buff >>= fun str => pure (Got.string str)) offset = _
    rw [buffGetString, bind_assoc]
    simp only [bind_assoc]
    exact getPrefixed_bind hbytes hfits hlie fun _ str => pure (Got.string str)
  | binary b =>
    have hbytes : b.bytes.length < 2147483648 := by
      rw [Arg.sent, Sent.bytes, length_append] at hlt
      omega
    show (buffGetBinary room buff >>= fun p => pure (Got.binary p.1 p.2)) offset = _
    rw [buffGetBinary, bind_assoc]
    simp only [bind_assoc, pure_bind]
    exact getPrefixed_bind hbytes hroom hlie fun len output => pure (Got.binary output len)
  | struct b =>
    have hbytes : LieAt buff offset b.bytes := hlie
    show (buffGetStruct b.bytes.length buff >>= fun output => pure (Got.struct output)) offset = _
    rw [buffGetStruct, bind_assoc, hbytes.scan_bind rfl, memcpy_bind (le_refl b.bytes.length)]
    rfl

/-- **The getters find the encoding**, one field behind the other. -/
lemma getFields_lieAt {fs : List Arg} {ds : List (ArgType × ℕ)} (hds : List.Forall₂ Suits fs ds)
    (hlt : (encoding fs).length < 2147483648) (hlie : LieAt buff offset (encoding fs)) :
    getFields buff ds offset = .ok (fs.map Arg.value, offset + (encoding fs).length) := by
  induction hds generalizing offset with
  | nil => rfl
  | @cons f d fs ds hd hds ih =>
    obtain ⟨type, room⟩ := d
    rw [encoding_cons] at hlt hlie ⊢
    rw [length_append] at hlt ⊢
    show (getField buff room type offset >>= fun p => (getFields buff ds >>= fun xs => pure (p.1 :: xs)) p.2) = _
    rw [getField_lieAt hd (by omega) hlie.left]
    show (getFields buff ds (offset + f.sent.bytes.length) >>= fun p => .ok (f.value :: p.1, p.2)) = _
    rw [ih (by omega) hlie.right, ← Nat.add_assoc]
    rfl

end Get

/-! ## There and back -/

lemma exists_suits {fs gs : List Arg} (htype : gs.map Arg.type = fs.map Arg.type) :
    ∃ ds, List.Forall₂ Suits fs ds ∧ List.Forall₂ Suits gs ds := by
  induction fs generalizing gs with
  | nil =>
    rw [map_nil, map_eq_nil_iff] at htype
    subst htype
    exact ⟨[], .nil, .nil⟩
  | cons f fs ih =>
    cases gs with
    | nil => cases htype
    | cons g gs =>
      simp only [map_cons, List.cons.injEq] at htype
      obtain ⟨ds, hfs, hgs⟩ := ih htype.2
      exact ⟨(f.type, max f.room g.room) :: ds, .cons ⟨rfl, le_max_left _ _⟩ hfs,
        .cons ⟨htype.1.symm, le_max_right _ _⟩ hgs⟩

lemma getFields_putFields {buff : Buffer} {fs : List Arg} (hfit : (encoding fs).length ≤ buff.bytes.length) :
    ∃ w, putFields fs ⟨buff.bytes, 0⟩ = .ok w ∧ w.offset = (encoding fs).length ∧
      ∀ ds, List.Forall₂ Suits fs ds → getFields w.buff ds 0 = .ok (fs.map Arg.value, w.offset) := by
  have hput : putFields fs (overwrite buff.bytes []) = .ok (overwrite buff.bytes ([] ++ encoding fs)) :=
    putFields_overwrite hfit
  refine ⟨overwrite buff.bytes (encoding fs), hput, rfl, ?_⟩
  intro ds hds
  rw [getFields_lieAt hds (hfit.trans_lt buff.length_lt) (lieAt_overwrite _ _), Nat.zero_add]
  rfl

/-- **There and back**: fields whose encoding fits a buffer are put into it without a fault, whatever it held; getters
of their types, with variables that hold them, then return the values and end at the same offset; and other fields of
the same types leave another buffer. -/
theorem fields_roundTrip (buff : Buffer) (fs : List Arg) (hfit : (encoding fs).length ≤ buff.bytes.length) :
    ∃ w, putFields fs ⟨buff.bytes, 0⟩ = .ok w ∧ w.offset = (encoding fs).length ∧
      (∀ ds, List.Forall₂ Suits fs ds → getFields w.buff ds 0 = .ok (fs.map Arg.value, w.offset)) ∧
      ∀ (buff' : Buffer) (gs : List Arg), (encoding gs).length ≤ buff'.bytes.length →
        gs.map Arg.type = fs.map Arg.type → gs ≠ fs →
          ∃ w', putFields gs ⟨buff'.bytes, 0⟩ = .ok w' ∧ w'.buff ≠ w.buff := by
  obtain ⟨w, hput, hoffset, hget⟩ := getFields_putFields hfit
  refine ⟨w, hput, hoffset, hget, ?_⟩
  intro buff' gs hfit' htype hne
  obtain ⟨w', hput', -, hget'⟩ := getFields_putFields hfit'
  refine ⟨w', hput', fun hbuff => hne ?_⟩
  -- what is got from the one buffer are the values of both
  obtain ⟨ds, hfs, hgs⟩ := exists_suits htype
  have hsame := (hget' ds hgs).symm.trans (hbuff ▸ hget ds hfs)
  simp only [Except.ok.injEq, Prod.mk.injEq] at hsame
  exact Arg.value_injective.list_map hsame.1

/-- An integer and a string, in sixteen bytes that held something else. -/
theorem fields_roundTrip_intString :
    (encoding [.int ⟨-2, by decide⟩, .string ⟨[65, 66], by decide, by decide⟩]).length ≤ (List.replicate 16 (7 : UInt8)).length ∧
      ∃ w, putFields [.int ⟨-2, by decide⟩, .string ⟨[65, 66], by decide, by decide⟩] ⟨List.replicate 16 7, 0⟩ = .ok w ∧
        getFields w.buff [(.int, 4), (.string, 8)] 0 = .ok ([.int (-2), .string [65, 66, 0]], w.offset) := by
  refine ⟨by decide, ?_⟩
  obtain ⟨w, hput, -, hget, -⟩ := fields_roundTrip ⟨List.replicate 16 7, by decide⟩
    [.int ⟨-2, by decide⟩, .string ⟨[65, 66], by decide, by decide⟩] (by decide)
  exact ⟨w, hput, hget [(.int, 4), (.string, 8)] (.cons ⟨rfl, by decide⟩ (.cons ⟨rfl, by decide⟩ .nil))⟩

end Hal.Fields
