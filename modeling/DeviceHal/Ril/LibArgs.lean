import Mathlib.Data.List.Forall2
import DeviceHal.Core.Loops
import DeviceHal.Core.Tokens

/-!
# The arguments of the vendor library

Without `--` on its command line, `rild` takes the arguments of the vendor library from the property `rild.libargs`.
`make_argv` cuts its value at the spaces, with `strtok`, and puts a pointer to each token into an array of 16, from
index 1 on.

**The defect.**  `make_argv` does not know how long the array is, and a value of less than 92 characters has up to 46
tokens: the sixteenth is written behind the array.

* `ArgvHolds` — the array holds these tokens, and is empty behind them.
* `argvLoop_ok`, `argvLoop_overrun` — the loop, from any round on.
* **`makeArgv_right_iff`** — when the array, the count and the indices are right.
* `libArgs_right_iff` — the same for what `rild` hands to the library, where an empty property stands for the default.
-/

namespace Hal

open List hiding Vector

def propertyValueMax : ℕ := 92

def maxLibArgs : ℕ := 16

/-- A string that fits the buffer of a property. -/
structure PropertyValue where
  chars : List UInt8
  zero_notMem : 0 ∉ chars
  length_lt : chars.length < propertyValueMax

/-- A pointer of the argument vector: into `args`, or to the name of the program. -/
inductive ArgPtr where
  | args (offset : ℕ)
  | program
deriving DecidableEq

/-- An argument vector; a null pointer is `none`. -/
abbrev Argv : Type := Vector (Option ArgPtr) maxLibArgs

/-- The delimiters that `strtok` gets.  The string `" \0"` ends at its first zero. -/
def argDelim : List UInt8 := [32]

/-- The loop of `make_argv`, at most `fuel` times its condition. -/
def argvLoop : ℕ → Option ℕ → Strtok → Argv → ℕ → Option (Except Fault (Strtok × Argv × ℕ))
  | 0, _, _, _, _ => none
  | fuel + 1, s, t, argv, count =>
    match strtok s argDelim t with
    | .error e => some (.error e)
    | .ok (none, t) => some (.ok (t, argv, count))
    | .ok (some tok, t) =>
      match writeAt argv count (some (.args tok)) with
      | .error e => some (.error e)
      | .ok argv => argvLoop fuel none t argv (count + 1)

/-- `make_argv`, whatever `strtok` has kept from before. -/
def makeArgv (fuel : ℕ) (t : Strtok) (argv : Argv) : Option (Except Fault (Strtok × Argv × ℕ)) :=
  argvLoop fuel (some 0) t argv 1

/-- The static array `args` with a value in it. -/
def PropertyValue.memory (v : PropertyValue) : List UInt8 := padded propertyValueMax v.chars

def newArgv : Argv := Vector.replicate maxLibArgs none

/-- `property_get`: the default stands for an empty value. -/
def propertyGet (value default : PropertyValue) : PropertyValue := if value.chars = [] then default else value

/-- `-d /dev/ttyC0`. -/
def defaultLibArgs : PropertyValue where
  chars := [45, 100, 32, 47, 100, 101, 118, 47, 116, 116, 121, 67, 48]
  zero_notMem := by decide
  length_lt := by decide

/-- What `main` does without `--`: the array for the library, with the program at index 0, and its length. -/
def libArgs (fuel : ℕ) (property : PropertyValue) (last : Option ℕ) : Option (Except Fault (Strtok × Argv × ℕ)) :=
  (makeArgv fuel ⟨(propertyGet property defaultLibArgs).memory, last⟩ newArgv).map fun made =>
    made.bind fun (t, argv, argc) => (writeAt argv 0 (some .program)).map fun rilArgv => (t, rilArgv, argc)

/-! ## What it is for -/

/-- The maximal runs of characters that are not spaces. -/
def PropertyValue.words (v : PropertyValue) : List (List UInt8) := runs (fun c => c ∈ argDelim) v.chars

/-- **The argument vector of some words**: the pointers from index 1 on lead to them, in order and each up to its zero,
and there are no others. -/
def IsArgv (words : List (List UInt8)) (t : Strtok) (argv : Argv) : Prop :=
  ∃ offsets : List ℕ,
    argv.toList.tail = offsets.map (fun p => some (.args p)) ++ List.replicate (maxLibArgs - 1 - words.length) none
      ∧ List.Forall₂ (fun p w => loadCString t.memory p = .ok w) offsets words

/-! ## The loop -/

/-- The array holds these tokens, which lie before what is ahead, and is empty behind them. -/
def ArgvHolds (words : List (List UInt8)) (memory : List UInt8) (start : Option ℕ) (argv : Argv) : Prop :=
  ∃ offsets : List ℕ,
    argv.toList = none :: offsets.map (fun p => some (.args p)) ++ List.replicate (maxLibArgs - 1 - words.length) none
      ∧ List.Forall₂ (Token memory start) offsets words

namespace ArgvHolds

variable {words : List (List UInt8)} {memory memory' : List UInt8} {start start' : Option ℕ} {argv : Argv}

lemma empty (memory : List UInt8) (start : Option ℕ) : ArgvHolds [] memory start newArgv := ⟨[], rfl, .nil⟩

lemma length_le (h : ArgvHolds words memory start argv) : words.length + 1 ≤ maxLibArgs := by
  obtain ⟨offsets, hargv, htokens⟩ := h
  have hlen := congrArg List.length hargv
  rw [Vector.length_toList, length_append, length_cons, length_map, htokens.length_eq] at hlen
  omega

lemma imp (h : ArgvHolds words memory start argv)
    (htoken : ∀ q w, Token memory start q w → Token memory' start' q w) : ArgvHolds words memory' start' argv := by
  obtain ⟨offsets, hargv, htokens⟩ := h
  exact ⟨offsets, hargv, htokens.imp htoken⟩

lemma write {q : ℕ} {w : List UInt8} (h : ArgvHolds words memory start argv) (hlt : words.length + 1 < maxLibArgs)
    (htoken : Token memory start q w) :
    ∃ argv', writeAt argv (words.length + 1) (some (.args q)) = .ok argv'
      ∧ ArgvHolds (words ++ [w]) memory start argv' := by
  obtain ⟨offsets, hargv, htokens⟩ := h
  have hlen : (none :: offsets.map fun p => some (ArgPtr.args p)).length = words.length + 1 := by
    rw [length_cons, length_map, htokens.length_eq]
  have hfree : maxLibArgs - 1 - words.length = maxLibArgs - 1 - (words ++ [w]).length + 1 := by
    rw [length_append, length_singleton]
    omega
  refine ⟨_, writeAt_of_lt _ hlt, offsets ++ [q], ?_, rel_append htokens (.cons htoken .nil)⟩
  rw [Vector.toList_set, hargv, hfree, replicate_succ, set_append_right _ _ (Nat.le_of_eq hlen), hlen,
    Nat.sub_self, set_cons_zero, map_append]
  simp

lemma isArgv {t : Strtok} (h : ArgvHolds words t.memory start argv) : IsArgv words t argv := by
  obtain ⟨offsets, hargv, htokens⟩ := h
  exact ⟨offsets, congrArg List.tail hargv, htokens.imp fun _ _ htoken => htoken.loadCString⟩

end ArgvHolds

section Loop

variable {ws words : List (List UInt8)} {fuel : ℕ} {s : Option ℕ} {t : Strtok} {rem : List UInt8} {argv : Argv}

lemma argvLoop_cons {w : List UInt8} (hahead : Ahead t.memory (s.or t.last) rem)
    (hruns : runs (fun c => c ∈ argDelim) rem = w :: ws) (hholds : ArgvHolds words t.memory (s.or t.last) argv)
    (hlt : words.length + 1 < maxLibArgs) :
    ∃ t' argv' rem', argvLoop (fuel + 1) s t argv (words.length + 1) = argvLoop fuel none t' argv' (words.length + 2)
      ∧ Ahead t'.memory t'.last rem' ∧ runs (fun c => c ∈ argDelim) rem' = ws
      ∧ ArgvHolds (words ++ [w]) t'.memory t'.last argv' := by
  obtain ⟨q, t', rem', hstrtok, hahead', hruns', htoken, hkeep⟩ := strtok_cons hahead hruns
  obtain ⟨argv', hwrite, hholds'⟩ := (hholds.imp hkeep).write hlt htoken
  refine ⟨t', argv', rem', ?_, hahead', hruns', hholds'⟩
  simp only [argvLoop, hstrtok, hwrite]

lemma argvLoop_ok (hfuel : ws.length < fuel) (hahead : Ahead t.memory (s.or t.last) rem)
    (hruns : runs (fun c => c ∈ argDelim) rem = ws) (hholds : ArgvHolds words t.memory (s.or t.last) argv)
    (hroom : (words ++ ws).length < maxLibArgs) :
    ∃ t' argv', argvLoop fuel s t argv (words.length + 1) = some (.ok (t', argv', (words ++ ws).length + 1))
      ∧ ArgvHolds (words ++ ws) t'.memory t'.last argv' := by
  induction ws generalizing fuel s t rem words argv with
  | nil =>
    obtain ⟨fuel, rfl⟩ := Nat.exists_eq_succ_of_ne_zero (Nat.ne_of_gt hfuel)
    refine ⟨⟨t.memory, none⟩, argv, ?_, ?_⟩
    · simp [argvLoop, strtok_nil (by decide) hahead hruns]
    · rw [append_nil]
      exact hholds.imp fun q w htoken => ⟨htoken.lies, htoken.zero_notMem, fun p hp => nomatch hp⟩
  | cons w ws ih =>
    obtain ⟨fuel, rfl⟩ := Nat.exists_eq_succ_of_ne_zero (Nat.ne_of_gt (Nat.zero_lt_of_lt hfuel))
    have hword : words ++ w :: ws = words ++ [w] ++ ws := by simp
    rw [hword] at hroom ⊢
    have hlen : (words ++ [w]).length = words.length + 1 := length_append
    have hlt : words.length + 1 < maxLibArgs := by
      rw [length_append, hlen] at hroom
      omega
    obtain ⟨t', argv', rem', hloop, hahead', hruns', hholds'⟩ := argvLoop_cons hahead hruns hholds hlt
    have hrest := ih (s := none) (Nat.lt_of_succ_lt_succ hfuel) hahead' hruns' hholds' hroom
    rw [hlen] at hrest
    rw [hloop]
    exact hrest

lemma argvLoop_overrun (hfuel : maxLibArgs < words.length + 1 + fuel) (hahead : Ahead t.memory (s.or t.last) rem)
    (hruns : runs (fun c => c ∈ argDelim) rem = ws) (hholds : ArgvHolds words t.memory (s.or t.last) argv)
    (hroom : maxLibArgs ≤ (words ++ ws).length) :
    argvLoop fuel s t argv (words.length + 1) = some (.error (.store maxLibArgs 1 maxLibArgs)) := by
  have hle := hholds.length_le
  induction ws generalizing fuel s t rem words argv with
  | nil =>
    rw [append_nil] at hroom
    omega
  | cons w ws ih =>
    obtain ⟨fuel, rfl⟩ := Nat.exists_eq_succ_of_ne_zero (show fuel ≠ 0 by omega)
    by_cases hlt : words.length + 1 < maxLibArgs
    · have hlen : (words ++ [w]).length = words.length + 1 := length_append
      obtain ⟨t', argv', rem', hloop, hahead', hruns', hholds'⟩ := argvLoop_cons hahead hruns hholds hlt
      have hrest := ih (s := none) (show maxLibArgs < (words ++ [w]).length + 1 + fuel by omega) hahead' hruns'
        hholds' (by simpa using hroom) hholds'.length_le
      rw [hlen] at hrest
      rw [hloop]
      exact hrest
    · obtain ⟨q, t', rem', hstrtok, -⟩ := strtok_cons hahead hruns
      have hfull : words.length + 1 = maxLibArgs := by omega
      simp only [argvLoop, hstrtok, hfull, writeAt, Nat.lt_irrefl, dif_neg, not_false_eq_true]

end Loop

/-! ## The value of the property -/

lemma PropertyValue.ahead (v : PropertyValue) : Ahead v.memory (some 0) v.chars := by
  refine ⟨v.zero_notMem, [], List.replicate (propertyValueMax - v.chars.length - 1) 0, ?_, rfl⟩
  have hfree : propertyValueMax - v.chars.length = propertyValueMax - v.chars.length - 1 + 1 := by
    have hlt := v.length_lt
    omega
  rw [memory, padded, hfree, replicate_succ]
  simp

section Made

variable {v : PropertyValue} {fuel : ℕ} (last : Option ℕ) (hfuel : maxLibArgs < fuel)

include hfuel

lemma makeArgv_ok (hroom : v.words.length < maxLibArgs) :
    ∃ t argv, makeArgv fuel ⟨v.memory, last⟩ newArgv = some (.ok (t, argv, v.words.length + 1))
      ∧ ArgvHolds v.words t.memory t.last argv :=
  argvLoop_ok (s := some 0) (t := ⟨v.memory, last⟩) (show v.words.length < fuel by omega) v.ahead rfl
    (ArgvHolds.empty _ _) hroom

lemma makeArgv_overrun (hroom : ¬ v.words.length < maxLibArgs) :
    makeArgv fuel ⟨v.memory, last⟩ newArgv = some (.error (.store maxLibArgs 1 maxLibArgs)) :=
  argvLoop_overrun (s := some 0) (t := ⟨v.memory, last⟩) (show maxLibArgs < 0 + 1 + fuel by omega) v.ahead rfl
    (ArgvHolds.empty _ _) (Nat.le_of_not_lt hroom)

end Made

/-- **The arguments of the vendor library.**  For every value of the property, `make_argv` returns with the array that
holds exactly the runs of the value from index 1 on, and with one more than their number, without having written outside
the array, **iff** there are less than `MAX_LIB_ARGS` of them. -/
theorem makeArgv_right_iff (v : PropertyValue) (last : Option ℕ) {fuel : ℕ} (hfuel : maxLibArgs < fuel) :
    (∃ t argv, makeArgv fuel ⟨v.memory, last⟩ newArgv = some (.ok (t, argv, v.words.length + 1))
        ∧ IsArgv v.words t argv)
      ↔ v.words.length < maxLibArgs := by
  constructor
  · rintro ⟨t, argv, hmade, -⟩
    by_contra hroom
    rw [makeArgv_overrun last hfuel hroom] at hmade
    cases hmade
  · intro hroom
    obtain ⟨t, argv, hmade, hholds⟩ := makeArgv_ok last hfuel hroom
    exact ⟨t, argv, hmade, hholds.isArgv⟩

/-- The default has two of them. -/
theorem makeArgv_right_default :
    maxLibArgs < 17 ∧ defaultLibArgs.words.length = 2
      ∧ ∃ t argv, makeArgv 17 ⟨defaultLibArgs.memory, none⟩ newArgv
          = some (.ok (t, argv, defaultLibArgs.words.length + 1))
        ∧ IsArgv defaultLibArgs.words t argv :=
  ⟨by decide, by decide, (makeArgv_right_iff defaultLibArgs none (by decide)).mpr (by decide)⟩

/-- **The defect**: a value of sixteen letters with a space between each two.  The last of them goes to index 16. -/
theorem sixteenth_argument_outside : let v : PropertyValue :=
      ⟨[97, 32, 97, 32, 97, 32, 97, 32, 97, 32, 97, 32, 97, 32, 97, 32, 97, 32, 97, 32, 97, 32, 97, 32, 97, 32, 97, 32,
        97, 32, 97], by decide, by decide⟩
    v.words = List.replicate 16 [97]
      ∧ makeArgv 17 ⟨v.memory, none⟩ newArgv = some (.error (.store maxLibArgs 1 maxLibArgs)) := by
  decide

/-- **What the library gets**: the name of the program, and behind it the runs of the property, or of the default where
the property is empty. -/
theorem libArgs_right_iff (property : PropertyValue) (last : Option ℕ) {fuel : ℕ} (hfuel : maxLibArgs < fuel) :
    (∃ t rilArgv, libArgs fuel property last
          = some (.ok (t, rilArgv, (propertyGet property defaultLibArgs).words.length + 1))
        ∧ rilArgv.toList.head? = some (some .program)
        ∧ IsArgv (propertyGet property defaultLibArgs).words t rilArgv)
      ↔ (propertyGet property defaultLibArgs).words.length < maxLibArgs := by
  constructor
  · rintro ⟨t, rilArgv, hargs, -⟩
    by_contra hroom
    rw [libArgs, makeArgv_overrun last hfuel hroom] at hargs
    cases hargs
  · intro hroom
    obtain ⟨t, argv, hmade, hholds⟩ := makeArgv_ok last hfuel hroom
    obtain ⟨offsets, hargv, htokens⟩ := hholds
    have hset : (argv.set 0 (some ArgPtr.program) (by decide)).toList
        = some .program :: offsets.map (fun p => some (.args p))
          ++ List.replicate (maxLibArgs - 1 - (propertyGet property defaultLibArgs).words.length) none := by
      rw [Vector.toList_set, hargv]
      rfl
    refine ⟨t, argv.set 0 (some .program) (by decide), ?_, by rw [hset]; rfl, offsets, by rw [hset]; rfl,
      htokens.imp fun _ _ htoken => htoken.loadCString⟩
    rw [libArgs, hmade]
    rfl

/-- Without the property there are the two words of the default. -/
theorem libArgs_right_unset : let property : PropertyValue := ⟨[], by decide, by decide⟩
    ∃ t rilArgv, libArgs 17 property none = some (.ok (t, rilArgv, 3)) ∧ IsArgv defaultLibArgs.words t rilArgv := by
  intro property
  have hfuel : maxLibArgs < 17 := by decide
  obtain ⟨t, rilArgv, hargs, -, hargv⟩ := (libArgs_right_iff property none hfuel).mpr (by decide)
  exact ⟨t, rilArgv, hargs, hargv⟩

end Hal
