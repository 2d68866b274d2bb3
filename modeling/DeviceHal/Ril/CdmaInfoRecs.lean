import Mathlib.Data.List.Forall2
import DeviceHal.Core.Reads

/-!
# CDMA information records

The vendor reports up to ten information records at once.  Each has a name and a union, of which the name says what is
in it: a text to display, a number, a signal and so on.  `cdmaInfoRecInd` converts them to records that have a vector
for each of these, all of them empty but one.  If a record has an unknown name or a text that is too long nothing is
delivered.

A union is the bytes of its largest member here, and a member is read at its offset.

* **`cdmaInfoRecInd_delivers`** — what is delivered, for any indication of the right size.
-/

namespace Hal

open List hiding Vector
open Option

def cdmaAlphaInfoBufferLength : ℕ := 64

def cdmaNumberInfoBufferLength : ℕ := 81

def rilCdmaMaxNumberOfInfoRecs : ℕ := 10

/-- `sizeof(RIL_CDMA_InformationRecords)`. -/
def rilCdmaInformationRecordsSize : ℕ := 964

/-- `RIL_CDMA_InfoRecName`. -/
inductive CdmaInfoRecName where
  | display
  | calledPartyNumber
  | callingPartyNumber
  | connectedNumber
  | signal
  | redirectingNumber
  | lineControl
  | extendedDisplay
  | t53Clir
  | t53Release
  | t53AudioControl

def CdmaInfoRecName.ofInt : ℤ → Option CdmaInfoRecName
  | 0 => some .display
  | 1 => some .calledPartyNumber
  | 2 => some .callingPartyNumber
  | 3 => some .connectedNumber
  | 4 => some .signal
  | 5 => some .redirectingNumber
  | 6 => some .lineControl
  | 7 => some .extendedDisplay
  | 8 => some .t53Clir
  | 9 => some .t53Release
  | 10 => some .t53AudioControl
  | _ => none

/-- `RIL_CDMA_InformationRecord`.  The name is any `int`. -/
structure RilCdmaInformationRecord where
  name : ℤ
  union : Vector UInt8 92
deriving DecidableEq

structure RilCdmaInformationRecords where
  numberOfInfoRecs : UInt8
  infoRec : Vector RilCdmaInformationRecord rilCdmaMaxNumberOfInfoRecs

namespace RilCdmaInformationRecord

/-- `display.alpha_len`, and `number.len`, which is at the same place. -/
def len (infoRec : RilCdmaInformationRecord) : ℕ := infoRec.union[0].toNat

/-- `display.alpha_buf`. -/
def alphaBuf (infoRec : RilCdmaInformationRecord) : List UInt8 :=
  slice infoRec.union.toList 1 cdmaAlphaInfoBufferLength

/-- `number.buf`. -/
def buf (infoRec : RilCdmaInformationRecord) : List UInt8 := slice infoRec.union.toList 1 cdmaNumberInfoBufferLength

end RilCdmaInformationRecord

structure CdmaDisplayInfoRecord where
  alphaBuf : List UInt8

structure CdmaNumberInfoRecord where
  number : List UInt8
  numberType : UInt8
  numberPlan : UInt8
  pi : UInt8
  si : UInt8

structure CdmaSignalInfoRecord where
  isPresent : Bool
  signalType : UInt8
  alertPitch : UInt8
  signal : UInt8

structure CdmaRedirectingNumberInfoRecord where
  redirectingNumber : CdmaNumberInfoRecord
  redirectingReason : ℤ

structure CdmaLineControlInfoRecord where
  lineCtrlPolarityIncluded : UInt8
  lineCtrlToggle : UInt8
  lineCtrlReverse : UInt8
  lineCtrlPowerDenial : UInt8

structure CdmaT53ClirInfoRecord where
  cause : UInt8

structure CdmaT53AudioControlInfoRecord where
  upLink : UInt8
  downLink : UInt8

structure CdmaInformationRecord where
  name : ℤ
  display : List CdmaDisplayInfoRecord
  number : List CdmaNumberInfoRecord
  signal : List CdmaSignalInfoRecord
  redir : List CdmaRedirectingNumberInfoRecord
  lineCtrl : List CdmaLineControlInfoRecord
  clir : List CdmaT53ClirInfoRecord
  audioCtrl : List CdmaT53AudioControlInfoRecord

/-! ## The code -/

/-- The record before the `switch`: all vectors are of size 0. -/
def CdmaInformationRecord.named (name : ℤ) : CdmaInformationRecord := ⟨name, [], [], [], [], [], [], []⟩

/-- A text is copied to a block of its own, with a NUL behind it, and from there to a `hidl_string`.  `malloc` is what
is in the block, if there is one. -/
def copyText (malloc : Option (ℕ → UInt8)) (buf : List UInt8) (len : ℕ) : Except Fault (Option (List UInt8)) :=
  match malloc with
  | none => .ok none
  | some block => do
      let text ← load buf 0 len
      let string8 ← store ((List.range (len + 1)).map block) 0 text
      let string8 ← store string8 len [0]
      let text ← loadCString string8 0
      .ok (some text)

def convertDisplay (malloc : Option (ℕ → UInt8)) (infoRec : RilCdmaInformationRecord) :
    Except Fault (Option CdmaDisplayInfoRecord) :=
  if infoRec.len > cdmaAlphaInfoBufferLength then .ok none
  else do
    let string8 ← copyText malloc infoRec.alphaBuf infoRec.len
    .ok (string8.map fun alphaBuf => ⟨alphaBuf⟩)

/-- The `case` of a number; a redirecting number begins with one. -/
def convertNumber (malloc : Option (ℕ → UInt8)) (infoRec : RilCdmaInformationRecord) :
    Except Fault (Option CdmaNumberInfoRecord) :=
  if infoRec.len > cdmaNumberInfoBufferLength then .ok none
  else do
    let string8 ← copyText malloc infoRec.buf infoRec.len
    .ok (string8.map fun number =>
      ⟨number, infoRec.union[82], infoRec.union[83], infoRec.union[84], infoRec.union[85]⟩)

/-- The body of the loop; `none` is `return 0`. -/
def convertRecord (malloc : Option (ℕ → UInt8)) (infoRec : RilCdmaInformationRecord) :
    Except Fault (Option CdmaInformationRecord) :=
  match CdmaInfoRecName.ofInt infoRec.name with
  | some .display | some .extendedDisplay => do
      let display ← convertDisplay malloc infoRec
      .ok (display.map fun display => { CdmaInformationRecord.named infoRec.name with display := [display] })
  | some .calledPartyNumber | some .callingPartyNumber | some .connectedNumber => do
      let number ← convertNumber malloc infoRec
      .ok (number.map fun number => { CdmaInformationRecord.named infoRec.name with number := [number] })
  | some .signal =>
    .ok (some { CdmaInformationRecord.named infoRec.name with
      signal := [⟨infoRec.union[0] ≠ 0, infoRec.union[1], infoRec.union[2], infoRec.union[3]⟩] })
  | some .redirectingNumber => do
      let number ← convertNumber malloc infoRec
      .ok (number.map fun number =>
        { CdmaInformationRecord.named infoRec.name with redir := [⟨number, intAt infoRec.union.toList 88 4⟩] })
  | some .lineControl =>
    .ok (some { CdmaInformationRecord.named infoRec.name with
      lineCtrl := [⟨infoRec.union[0], infoRec.union[1], infoRec.union[2], infoRec.union[3]⟩] })
  | some .t53Clir => .ok (some { CdmaInformationRecord.named infoRec.name with clir := [⟨infoRec.union[0]⟩] })
  | some .t53AudioControl =>
    .ok (some { CdmaInformationRecord.named infoRec.name with
      audioCtrl := [⟨infoRec.union[0], infoRec.union[1]⟩] })
  | some .t53Release | none => .ok none

def convertRecords (malloc : ℕ → Option (ℕ → UInt8)) :
    ℕ → List RilCdmaInformationRecord → Except Fault (Option (List CdmaInformationRecord))
  | _, [] => .ok (some [])
  | i, infoRec :: rest => do
      match ← convertRecord (malloc i) infoRec with
      | none => .ok none
      | some record => do
          let records ← convertRecords malloc (i + 1) rest
          .ok (records.map (record :: ·))

/-- The records that the loop goes through. -/
def RilCdmaInformationRecords.read (recordsRil : RilCdmaInformationRecords) : List RilCdmaInformationRecord :=
  recordsRil.infoRec.toList.take (min recordsRil.numberOfInfoRecs.toNat rilCdmaMaxNumberOfInfoRecs)

/-- `cdmaInfoRecInd`: what the client is told.  `client` says that there is a service with a client. -/
def cdmaInfoRecInd (client : Bool) (malloc : ℕ → Option (ℕ → UInt8)) (response : Option RilCdmaInformationRecords)
    (responseLen : ℕ) : Except Fault (Option (List CdmaInformationRecord)) :=
  if client = false then .ok none
  else
    match response with
    | none => .ok none
    | some recordsRil =>
      if responseLen ≠ rilCdmaInformationRecordsSize then .ok none
      else convertRecords malloc 0 recordsRil.read

/-! ## What is asked of it -/

inductive CdmaInfoKind where
  | display
  | number
  | signal
  | redir
  | lineCtrl
  | clir
  | audioCtrl
deriving DecidableEq

def CdmaInfoRecName.kind : CdmaInfoRecName → Option CdmaInfoKind
  | .display => some .display
  | .calledPartyNumber => some .number
  | .callingPartyNumber => some .number
  | .connectedNumber => some .number
  | .signal => some .signal
  | .redirectingNumber => some .redir
  | .lineControl => some .lineCtrl
  | .extendedDisplay => some .display
  | .t53Clir => some .clir
  | .t53Release => none
  | .t53AudioControl => some .audioCtrl

/-- How many there are in the vector of a kind. -/
def CdmaInformationRecord.size (record : CdmaInformationRecord) : CdmaInfoKind → ℕ
  | .display => record.display.length
  | .number => record.number.length
  | .signal => record.signal.length
  | .redir => record.redir.length
  | .lineCtrl => record.lineCtrl.length
  | .clir => record.clir.length
  | .audioCtrl => record.audioCtrl.length

namespace RilCdmaInformationRecord

def kind (infoRec : RilCdmaInformationRecord) : Option CdmaInfoKind :=
  (CdmaInfoRecName.ofInt infoRec.name).bind CdmaInfoRecName.kind

/-- How long the text of a kind may be; the other kinds have none. -/
def limit : CdmaInfoKind → Option ℕ
  | .display => some cdmaAlphaInfoBufferLength
  | .number => some cdmaNumberInfoBufferLength
  | .redir => some cdmaNumberInfoBufferLength
  | _ => none

/-- The text of the kind is not too long. -/
def Fits (infoRec : RilCdmaInformationRecord) (kind : CdmaInfoKind) : Prop :=
  match limit kind with
  | none => True
  | some max => infoRec.len ≤ max

instance (infoRec : RilCdmaInformationRecord) : DecidablePred infoRec.Fits
  | .display => inferInstanceAs (Decidable (_ ≤ _))
  | .number => inferInstanceAs (Decidable (_ ≤ _))
  | .signal => isTrue trivial
  | .redir => inferInstanceAs (Decidable (_ ≤ _))
  | .lineCtrl | .clir | .audioCtrl => isTrue trivial

/-- The name is supported, and the text is not too long. -/
def Supported (infoRec : RilCdmaInformationRecord) : Prop := ∃ kind, infoRec.kind = some kind ∧ infoRec.Fits kind

/-- The first `len` bytes, up to any NUL. -/
def text (infoRec : RilCdmaInformationRecord) (buf : List UInt8) : List UInt8 :=
  (buf.take infoRec.len).takeWhile (· ≠ 0)

def numberInfo (infoRec : RilCdmaInformationRecord) : CdmaNumberInfoRecord where
  number := infoRec.text infoRec.buf
  numberType := infoRec.union[82]
  numberPlan := infoRec.union[83]
  pi := infoRec.union[84]
  si := infoRec.union[85]

/-- One vector, of the kind the name calls for, is of size 1, the others are empty, and what is in it are the fields of
the record. -/
structure Conveys (infoRec : RilCdmaInformationRecord) (record : CdmaInformationRecord) : Prop where
  name : record.name = infoRec.name
  size : ∃ kind, infoRec.kind = some kind ∧ ∀ k, record.size k = if k = kind then 1 else 0
  display : ∀ d ∈ record.display, d = ⟨infoRec.text infoRec.alphaBuf⟩
  number : ∀ n ∈ record.number, n = infoRec.numberInfo
  signal : ∀ s ∈ record.signal, s = ⟨infoRec.union[0] ≠ 0, infoRec.union[1], infoRec.union[2], infoRec.union[3]⟩
  redir : ∀ r ∈ record.redir, r = ⟨infoRec.numberInfo, intAt infoRec.union.toList 88 4⟩
  lineCtrl : ∀ l ∈ record.lineCtrl, l = ⟨infoRec.union[0], infoRec.union[1], infoRec.union[2], infoRec.union[3]⟩
  clir : ∀ c ∈ record.clir, c = ⟨infoRec.union[0]⟩
  audioCtrl : ∀ a ∈ record.audioCtrl, a = ⟨infoRec.union[0], infoRec.union[1]⟩

end RilCdmaInformationRecord

/-! ## One record -/

lemma patch_all {block text : List UInt8} (h : block.length = text.length + 1) :
    patch (patch block 0 text) text.length [0] = text ++ [0] := by
  have hfirst : patch block 0 text = text ++ block.drop text.length := by simp [patch]
  rw [hfirst, patch, take_left, drop_eq_nil_of_le (by simp [h]), append_nil]

lemma takeWhile_terminated (text : List UInt8) : (text ++ [0]).takeWhile (· ≠ 0) = text.takeWhile (· ≠ 0) := by
  induction text with
  | nil => rfl
  | cons b text ih =>
    by_cases hb : b = 0
    · simp [hb]
    · simp only [cons_append, takeWhile_cons, hb, ne_eq, not_false_eq_true, decide_true, if_true] at ih ⊢
      rw [ih]

/-- **A text is copied** up to its NUL, and all copies are inside. -/
lemma copyText_eq {malloc : Option (ℕ → UInt8)} (hmalloc : malloc ≠ none) {buf : List UInt8} {len : ℕ}
    (h : len ≤ buf.length) : copyText malloc buf len = .ok (some ((buf.take len).takeWhile (· ≠ 0))) := by
  obtain ⟨block, rfl⟩ := ne_none_iff_exists'.mp hmalloc
  have htext : load buf 0 len = .ok (buf.take len) := (reads_load buf 0 len).eq_ok (by omega)
  have hlen : (buf.take len).length = len := length_take_of_le h
  have hblock : ((List.range (len + 1)).map block).length = len + 1 := by simp
  have hstore := (reads_store ((List.range (len + 1)).map block) 0 (buf.take len)).eq_ok (by rw [hlen, hblock]; omega)
  have hlength : (patch ((List.range (len + 1)).map block) 0 (buf.take len)).length = len + 1 := by
    rw [length_patch (by rw [hlen, hblock]; omega), hblock]
  have hterminate := (reads_store (patch ((List.range (len + 1)).map block) 0 (buf.take len)) len [0]).eq_ok
    (by rw [hlength]; exact Nat.le_refl _)
  have hall : patch (patch ((List.range (len + 1)).map block) 0 (buf.take len)) (buf.take len).length [0]
      = buf.take len ++ [0] := patch_all (by rw [hlen, hblock])
  rw [hlen] at hall
  rw [hall] at hterminate
  have hread := (reads_loadCString (buf.take len ++ [0]) 0).eq_ok (by simp)
  rw [drop_zero, takeWhile_terminated] at hread
  simp only [copyText, htext, bind, Except.bind, hstore, hterminate, hread]

section Record

variable {malloc : Option (ℕ → UInt8)} {infoRec : RilCdmaInformationRecord}

lemma length_alphaBuf : infoRec.alphaBuf.length = cdmaAlphaInfoBufferLength :=
  length_slice (by rw [Vector.length_toList]; decide)

lemma length_buf : infoRec.buf.length = cdmaNumberInfoBufferLength :=
  length_slice (by rw [Vector.length_toList]; decide)

lemma convertDisplay_eq (hmalloc : malloc ≠ none) : convertDisplay malloc infoRec
    = .ok (if infoRec.len ≤ cdmaAlphaInfoBufferLength then some ⟨infoRec.text infoRec.alphaBuf⟩ else none) := by
  unfold convertDisplay
  by_cases h : infoRec.len ≤ cdmaAlphaInfoBufferLength
  · rw [if_neg (Nat.not_lt_of_le h), if_pos h, copyText_eq hmalloc (by rw [length_alphaBuf]; exact h)]
    rfl
  · rw [if_pos (Nat.lt_of_not_le h), if_neg h]

lemma convertNumber_eq (hmalloc : malloc ≠ none) : convertNumber malloc infoRec
    = .ok (if infoRec.len ≤ cdmaNumberInfoBufferLength then some infoRec.numberInfo else none) := by
  unfold convertNumber
  by_cases h : infoRec.len ≤ cdmaNumberInfoBufferLength
  · rw [if_neg (Nat.not_lt_of_le h), if_pos h, copyText_eq hmalloc (by rw [length_buf]; exact h)]
    rfl
  · rw [if_pos (Nat.lt_of_not_le h), if_neg h]

def conveyed (infoRec : RilCdmaInformationRecord) : CdmaInfoKind → CdmaInformationRecord
  | .display => { CdmaInformationRecord.named infoRec.name with display := [⟨infoRec.text infoRec.alphaBuf⟩] }
  | .number => { CdmaInformationRecord.named infoRec.name with number := [infoRec.numberInfo] }
  | .signal =>
    { CdmaInformationRecord.named infoRec.name with
      signal := [⟨infoRec.union[0] ≠ 0, infoRec.union[1], infoRec.union[2], infoRec.union[3]⟩] }
  | .redir =>
    { CdmaInformationRecord.named infoRec.name with
      redir := [⟨infoRec.numberInfo, intAt infoRec.union.toList 88 4⟩] }
  | .lineCtrl =>
    { CdmaInformationRecord.named infoRec.name with
      lineCtrl := [⟨infoRec.union[0], infoRec.union[1], infoRec.union[2], infoRec.union[3]⟩] }
  | .clir => { CdmaInformationRecord.named infoRec.name with clir := [⟨infoRec.union[0]⟩] }
  | .audioCtrl =>
    { CdmaInformationRecord.named infoRec.name with audioCtrl := [⟨infoRec.union[0], infoRec.union[1]⟩] }

lemma conveys_conveyed {kind : CdmaInfoKind} (hkind : infoRec.kind = some kind) :
    infoRec.Conveys (conveyed infoRec kind) := by
  have hsize : ∀ k, (conveyed infoRec kind).size k = if k = kind then 1 else 0 := fun k => by
    cases kind <;> cases k <;> rfl
  refine ⟨by cases kind <;> rfl, ⟨kind, hkind, hsize⟩, ?_, ?_, ?_, ?_, ?_, ?_, ?_⟩
  -- each kind fills its own field and leaves the others empty
  all_goals cases kind <;> simp [conveyed, CdmaInformationRecord.named]

/-- The record for the client, if the record is supported. -/
def delivered (infoRec : RilCdmaInformationRecord) : Option CdmaInformationRecord :=
  infoRec.kind.bind fun kind => if infoRec.Fits kind then some (conveyed infoRec kind) else none

lemma convert_text {α : Type} {k : CdmaInfoKind} {x : Except Fault (Option α)} {value : α}
    {g : α → CdmaInformationRecord} (hx : x = .ok (if infoRec.Fits k then some value else none))
    (hg : g value = conveyed infoRec k) :
    (x >>= fun v => .ok (v.map g)) = .ok (if infoRec.Fits k then some (conveyed infoRec k) else none) := by
  rw [hx]
  by_cases h : infoRec.Fits k
  · rw [if_pos h, if_pos h, ← hg]
    rfl
  · rw [if_neg h, if_neg h]
    rfl

/-- **One record.** -/
lemma convertRecord_eq (hmalloc : malloc ≠ none) : convertRecord malloc infoRec = .ok (delivered infoRec) := by
  unfold convertRecord delivered RilCdmaInformationRecord.kind
  cases CdmaInfoRecName.ofInt infoRec.name with
  | none => rfl
  | some name =>
    cases name with
    | display | extendedDisplay => exact convert_text (k := .display) (convertDisplay_eq hmalloc) rfl
    | calledPartyNumber | callingPartyNumber | connectedNumber =>
      exact convert_text (k := .number) (convertNumber_eq hmalloc) rfl
    | redirectingNumber => exact convert_text (k := .redir) (convertNumber_eq hmalloc) rfl
    | signal | lineControl | t53Clir | t53AudioControl | t53Release => rfl

lemma delivered_eq_none_iff : delivered infoRec = none ↔ ¬ infoRec.Supported := by
  unfold delivered RilCdmaInformationRecord.Supported
  cases infoRec.kind with
  | none => simp
  | some kind => simp

lemma conveys_of_delivered {record : CdmaInformationRecord} (h : delivered infoRec = some record) :
    infoRec.Supported ∧ infoRec.Conveys record := by
  obtain ⟨kind, hkind, hrecord⟩ := bind_eq_some_iff.mp h
  obtain ⟨hfits, rfl⟩ := ite_some_none_eq_some.mp hrecord
  exact ⟨⟨kind, hkind, hfits⟩, conveys_conveyed hkind⟩

end Record

/-! ## All of them -/

/-- The loop ends early at the first record that is not supported, and converts them all if there is none. -/
lemma convertRecords_conveys {malloc : ℕ → Option (ℕ → UInt8)} (hmalloc : ∀ i, malloc i ≠ none)
    (infoRecs : List RilCdmaInformationRecord) (i : ℕ) :
    (convertRecords malloc i infoRecs = .ok none ∧ ∃ r ∈ infoRecs, ¬ r.Supported)
      ∨ ∃ records, convertRecords malloc i infoRecs = .ok (some records) ∧ (∀ r ∈ infoRecs, r.Supported)
          ∧ List.Forall₂ RilCdmaInformationRecord.Conveys infoRecs records := by
  induction infoRecs generalizing i with
  | nil => exact .inr ⟨[], rfl, by simp, .nil⟩
  | cons infoRec rest ih =>
    have hconvert : convertRecord (malloc i) infoRec = .ok (delivered infoRec) := convertRecord_eq (hmalloc i)
    cases hdelivered : delivered infoRec with
    | none =>
      refine .inl ⟨?_, infoRec, mem_cons_self, delivered_eq_none_iff.mp hdelivered⟩
      rw [convertRecords, hconvert, hdelivered]
      rfl
    | some record =>
      obtain ⟨hsupported, hconveys⟩ := conveys_of_delivered hdelivered
      rw [hdelivered] at hconvert
      rcases ih (i + 1) with ⟨hnone, r, hr, hnot⟩ | ⟨records, hrest, hall, hforall⟩
      · refine .inl ⟨?_, r, mem_cons_of_mem _ hr, hnot⟩
        rw [convertRecords, hconvert]
        exact congrArg (· >>= fun records => Except.ok (records.map (record :: ·))) hnone
      · refine .inr ⟨record :: records, ?_, forall_mem_cons.mpr ⟨hsupported, hall⟩, .cons hconveys hforall⟩
        rw [convertRecords, hconvert]
        exact congrArg (· >>= fun records => Except.ok (records.map (record :: ·))) hrest

/-- **Information records.**  An indication of the right size is dropped if one of the records that are read is not
supported; else they are delivered, in order, each with one vector of size 1. -/
theorem cdmaInfoRecInd_delivers (malloc : ℕ → Option (ℕ → UInt8)) (hmalloc : ∀ i, malloc i ≠ none)
    (recordsRil : RilCdmaInformationRecords) :
    (cdmaInfoRecInd true malloc (some recordsRil) rilCdmaInformationRecordsSize = .ok none
        ∧ ∃ r ∈ recordsRil.read, ¬ r.Supported)
      ∨ ∃ records, cdmaInfoRecInd true malloc (some recordsRil) rilCdmaInformationRecordsSize = .ok (some records)
          ∧ (∀ r ∈ recordsRil.read, r.Supported)
          ∧ List.Forall₂ RilCdmaInformationRecord.Conveys recordsRil.read records :=
  convertRecords_conveys hmalloc recordsRil.read 0

/-- A display record with the text `HI`, a NUL and more behind it. -/
def displayRecord (name : ℤ) (len : UInt8) : RilCdmaInformationRecord where
  name := name
  union := Vector.ofFn fun i => if i.val = 0 then len else if i.val = 1 then 72 else if i.val = 2 then 73
    else if i.val = 3 then 0 else 65

/-- Twelve records are announced: ten are read, each of them supported. -/
theorem cdmaInfoRecInd_delivers_ten :
    (∀ i, (fun _ : ℕ => some fun _ : ℕ => (7 : UInt8)) i ≠ none)
      ∧ ∃ records, cdmaInfoRecInd true (fun _ => some fun _ => 7) (some ⟨12, Vector.replicate 10 (displayRecord 0 5)⟩)
            rilCdmaInformationRecordsSize = .ok (some records)
          ∧ List.Forall₂ RilCdmaInformationRecord.Conveys (List.replicate 10 (displayRecord 0 5)) records := by
  have hmalloc : ∀ i, (fun _ : ℕ => some fun _ : ℕ => (7 : UInt8)) i ≠ none := fun _ => some_ne_none _
  have hread : (⟨12, Vector.replicate 10 (displayRecord 0 5)⟩ : RilCdmaInformationRecords).read
      = List.replicate 10 (displayRecord 0 5) := by decide +kernel
  have hsupported : (displayRecord 0 5).Supported := ⟨.display, rfl, by decide +kernel⟩
  refine ⟨hmalloc, ?_⟩
  rcases cdmaInfoRecInd_delivers (fun _ => some fun _ => 7) hmalloc ⟨12, Vector.replicate 10 (displayRecord 0 5)⟩ with
    ⟨-, r, hr, hnot⟩ | ⟨records, hok, -, hforall⟩
  · rw [hread] at hr
    rw [eq_of_mem_replicate hr] at hnot
    exact absurd hsupported hnot
  · exact ⟨records, hok, hforall⟩

end Hal
