import Mathlib.Data.Int.Basic
import Mathlib.Tactic.Common

/-!
# Netlink attributes

A netlink message holds attributes: a header of four bytes with the length, header included, and the type, then
the payload.  A payload may hold attributes again.  `attrs` is what the loop

    for (nl_iterator it(attr); it.has_next(); it.next())

visits.  Memory is a function from addresses to bytes; nothing keeps a reader inside the message but the
lengths in the headers.

**`mem_attrs`**: what it visits lies inside the payload of `attr`, whatever the bytes are.
-/

namespace Hal

abbrev Memory : Type := ℕ → UInt8

def u16At (mem : Memory) (a : ℕ) : ℕ := (mem a).toNat + 256 * (mem (a + 1)).toNat

def u32At (mem : Memory) (a : ℕ) : ℕ := u16At mem a + 65536 * u16At mem (a + 2)

/-- A `uint32_t` that is assigned to an `int`. -/
def int32 (v : ℕ) : ℤ := if v < 2147483648 then v else v - 4294967296

/-- The bytes of a message, and zeros behind it. -/
def Memory.ofList (bytes : List UInt8) : Memory := fun a => bytes.getD a 0

def nlaHdrLen : ℕ := 4

def nlaAlign (len : ℕ) : ℕ := (len + 3) / 4 * 4

/-- `nla->nla_len`. -/
def nlaTotalLen (mem : Memory) (attr : ℕ) : ℕ := u16At mem attr

/-- `nla->nla_type`. -/
def nlaType (mem : Memory) (attr : ℕ) : ℕ := u16At mem (attr + 2)

def nlaData (attr : ℕ) : ℕ := attr + nlaHdrLen

/-- `nla_len`, the length of the payload. -/
def nlaLen (mem : Memory) (attr : ℕ) : ℤ := nlaTotalLen mem attr - nlaHdrLen

def NlaOk (mem : Memory) (attr : ℕ) (rem : ℤ) : Prop :=
  (nlaHdrLen : ℤ) ≤ rem ∧ nlaHdrLen ≤ nlaTotalLen mem attr ∧ (nlaTotalLen mem attr : ℤ) ≤ rem

instance (mem : Memory) (attr : ℕ) (rem : ℤ) : Decidable (NlaOk mem attr rem) :=
  inferInstanceAs (Decidable (_ ∧ _ ∧ _))

/-- The loop from a position on, with the bytes that remain; at most `fuel` rounds, which are enough if no more bytes
than that remain: a round takes the four of the header at least. -/
def attrsFrom (mem : Memory) : ℕ → ℕ → ℤ → List ℕ
  | 0, _, _ => []
  | fuel + 1, pos, rem =>
    if NlaOk mem pos rem then
      let totlen := nlaAlign (nlaTotalLen mem pos)
      pos :: attrsFrom mem fuel (pos + totlen) (rem - totlen)
    else []

/-- The attributes that the loop over the payload of `attr` visits. -/
def attrs (mem : Memory) (attr : ℕ) : List ℕ :=
  attrsFrom mem (nlaTotalLen mem attr) (nlaData attr) (nlaLen mem attr)

lemma mem_attrsFrom {mem : Memory} {p fuel pos : ℕ} {rem : ℤ} (hp : p ∈ attrsFrom mem fuel pos rem) :
    pos ≤ p ∧ nlaHdrLen ≤ nlaTotalLen mem p ∧ (p + nlaTotalLen mem p : ℤ) ≤ pos + rem := by
  induction fuel generalizing pos rem with
  | zero => exact absurd hp List.not_mem_nil
  | succ fuel ih =>
    simp only [attrsFrom] at hp
    split_ifs at hp with hok
    · rcases List.mem_cons.mp hp with rfl | hp
      · obtain ⟨-, hhdr, hfits⟩ := hok
        exact ⟨le_refl _, hhdr, by omega⟩
      · obtain ⟨hle, hhdr, hfits⟩ := ih hp
        exact ⟨by omega, hhdr, by omega⟩
    · exact absurd hp List.not_mem_nil

/-- **What the loop visits lies inside the payload.** -/
theorem mem_attrs {mem : Memory} {attr p : ℕ} (hp : p ∈ attrs mem attr) :
    nlaData attr ≤ p ∧ nlaHdrLen ≤ nlaTotalLen mem p
      ∧ p + nlaTotalLen mem p ≤ attr + nlaTotalLen mem attr := by
  obtain ⟨hle, hhdr, hfits⟩ := mem_attrsFrom hp
  refine ⟨hle, hhdr, ?_⟩
  simp only [nlaData, nlaLen] at hfits
  omega

end Hal
