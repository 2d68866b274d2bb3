import DeviceHal.Ril.Payload

/-!
# Payloads without a queue

In a build without `RIL_CHANNEL_QUEUING`, `my_enqueue` hands every request to the vendor at once and then cleans up
by the format.  For a proxy without a queue the helpers pass `FMT_IGNORE` and free the payload themselves, for the
proxies 1 and 3 they leave it to `clearPendingBuffer`, which was written for the queue.

**The defect.**  `clearPendingBuffer` frees the strings of a list, and nothing of an array of integers: the array
itself is the queue's copy there, and freed by `my_dequeue`.  Without the queue the array is the helper's own, and
nobody frees it.

* `body_returns_iff` — a helper hands its payload on iff its steps succeed, as in `Ril.Marshal`.
* **`payload_freedOnce_iff`** — when each block of the heap is freed once by the time the helper returns.
-/

namespace Hal.Direct

open List

/-! ## The program -/

/-- `my_enqueue`; the vendor only reads the payload. -/
def myEnqueue (buf : Option ℕ) (buflen : ℕ) (bf : BufFmt) (m : Region Cell) : Region Cell :=
  if bf ≠ .ignore then clearPendingBuffer bf buf buflen m else m

/-- `copyHidlStringToRil`: the memory afterwards and the pointer, `none` for a failure. -/
def copyString (m : Region Cell) (allocated : Bool) (src : HidlString) : Region Cell × Option (Option ℕ) :=
  match copyHidlStringToRil allocated src with
  | .copied none => (m, some none)
  | .copied (some _) => (m.alloc false (stringCell src), some (some m.length))
  | .noMemory => (m, none)
  | .truncated => (m.alloc false (stringCell src), none)

def ignoreBF (proxyId : Proxy) : Bool := proxyId ≠ .proxy1 ∧ proxyId ≠ .proxy3

/-- The `hidl_string` of a `const char *`. -/
def ofCharPtr (str : Option (List UInt8)) : HidlString := (str.getD []).takeWhile (· ≠ 0)

def dispatchString (proxyId : Proxy) (str : Bool × Option (List UInt8)) : Region Cell × Bool :=
  match copyString [] str.1 (ofCharPtr str.2) with
  | (m, none) => (m, false)
  | (m, some pString) =>
    if ignoreBF proxyId then ((myEnqueue pString 4 .ignore m).free pString, true)
    else (myEnqueue pString 4 .str m, true)

def pointersAt (m : Region Cell) (a : ℕ) : List (Option ℕ) := ((m.read a).map Cell.pointersIn).getD []

/-- `pStrings[i] = p`. -/
def setPointer (i : ℕ) (p : Option ℕ) : Cell → Cell
  | .pointers ps => .pointers (ps.set i p)
  | c => c

/-- The loop over the strings, from the `i`-th on.  If a copy fails, the ones before it and the array are freed. -/
def copyLoop (pStrings : ℕ) (i : ℕ) (m : Region Cell) : List (Bool × HidlString) → Region Cell × Bool
  | [] => (m, true)
  | str :: strs =>
    match copyString m str.1 str.2 with
    | (m, some p) => copyLoop pStrings (i + 1) (m.update pStrings (setPointer i p)) strs
    | (m, none) => ((m.freeAll ((pointersAt m pStrings).take i)).free (some pStrings), false)

/-- What both forms of `dispatchStrings` do with their strings. -/
def dispatchStringArray (proxyId : Proxy) (array : Bool) (strs : List (Bool × HidlString)) : Region Cell × Bool :=
  if array then
    match copyLoop 0 0 (Region.alloc [] false (.pointers (List.replicate strs.length none))) strs with
    | (m, false) => (m, false)
    | (m, true) =>
      if ignoreBF proxyId then
        let m := myEnqueue (some 0) (4 * strs.length) .ignore m
        ((m.freeAll ((pointersAt m 0).take strs.length)).free (some 0), true)
      else (myEnqueue (some 0) (4 * strs.length) .strs m, true)
  else ([], false)

/-- `dispatchStrings` with its strings as further arguments. -/
def dispatchStringsVarargs (proxyId : Proxy) (array : Bool) (strs : List (Bool × Option (List UInt8))) :
    Region Cell × Bool :=
  dispatchStringArray proxyId array (strs.map fun str => (str.1, ofCharPtr str.2))

def dispatchStrings (proxyId : Proxy) (array : Bool) (data : List (Bool × HidlString)) : Region Cell × Bool :=
  dispatchStringArray proxyId array data

def dispatchInts (proxyId : Proxy) (array : Bool) (xs : List ℤ) : Region Cell × Bool :=
  if array then
    let m := Region.alloc [] false (.ints xs)
    if ignoreBF proxyId then ((myEnqueue (some 0) (4 * xs.length) .ignore m).free (some 0), true)
    else (myEnqueue (some 0) (4 * xs.length) .ints m, true)
  else ([], false)

def dispatchCallForwardStatus (proxyId : Proxy) (fields : List ℤ) (number : Bool × HidlString) : Region Cell × Bool :=
  match copyString [] number.1 number.2 with
  | (m, none) => (m, false)
  | (m, some p) =>
    let cf := m.length
    let m := m.alloc true (.record fields [p])
    if ignoreBF proxyId then ((myEnqueue (some cf) (4 * (fields.length + 1)) .ignore m).free p, true)
    else (myEnqueue (some cf) (4 * (fields.length + 1)) .callFwst m, true)

/-- `dispatchIccApdu` leaves the string to `clearPendingBuffer` on every proxy. -/
def dispatchIccApdu (fields : List ℤ) (data : Bool × HidlString) : Region Cell × Bool :=
  match copyString [] data.1 data.2 with
  | (m, none) => (m, false)
  | (m, some p) =>
    let apdu := m.length
    let m := m.alloc true (.record fields [p])
    (myEnqueue (some apdu) (4 * (fields.length + 1)) .iccApdu m, true)

/-- A call of a dispatch helper.  The `Bool`s are the outcomes of its allocations, as far as they are reached. -/
inductive Helper where
  | string (str : Bool × Option (List UInt8))
  | stringsVarargs (array : Bool) (strs : List (Bool × Option (List UInt8)))
  | strings (array : Bool) (data : List (Bool × HidlString))
  | ints (array : Bool) (xs : List ℤ)
  | callForwardStatus (fields : List ℤ) (number : Bool × HidlString)
  | iccApdu (fields : List ℤ) (data : Bool × HidlString)

/-- The helper behind `addRequestToList`, which finds the proxy of the request. -/
def Helper.body (proxyId : Proxy) : Helper → Region Cell × Bool
  | string str => dispatchString proxyId str
  | stringsVarargs array strs => dispatchStringsVarargs proxyId array strs
  | strings array data => dispatchStrings proxyId array data
  | ints array xs => dispatchInts proxyId array xs
  | callForwardStatus fields number => dispatchCallForwardStatus proxyId fields number
  | iccApdu fields data => dispatchIccApdu fields data

/-- The call: the memory of its payload when it returns, and what it returns.  Without memory for the request
itself (`added`), or a row for its number, nothing is built. -/
def Helper.call (request : ℕ) (added : Bool) (h : Helper) : Region Cell × Bool :=
  match proxyOf request with
  | none => ([], false)
  | some proxyId => if added then h.body proxyId else ([], false)

/-- The steps of the helper that can fail. -/
def Helper.steps : Helper → List MarshalStep
  | string str => Hal.dispatchString (str.1, ofCharPtr str.2)
  | stringsVarargs array strs => Hal.dispatchStrings array (strs.map fun str => (str.1, ofCharPtr str.2))
  | strings array data => Hal.dispatchStrings array data
  | ints array _ => Hal.dispatchInts array
  | callForwardStatus _ number => Hal.dispatchCallForwardStatus number
  | iccApdu _ data => Hal.dispatchIccApdu data

def Helper.HasArray : Helper → Prop
  | stringsVarargs _ _ => True
  | strings _ _ => True
  | ints _ _ => True
  | _ => False

/-! ## One string -/

variable {m : Region Cell} {ps : List (Option ℕ)} {allocated : Bool} {src : HidlString}

lemma copyString_of_passes (hm : m.Owned ps) (h : (MarshalStep.copyHidlString allocated src).Passes) :
    ∃ m' p, copyString m allocated src = (m', some p) ∧ m'.Owned (ps ++ [p]) ∧ ∃ new, m' = m ++ new := by
  unfold copyString
  rcases copyHidlStringToRil_cases allocated src with ⟨dest, hcopy, -⟩ | ⟨-, hne, hno⟩
  · rw [hcopy]
    cases dest with
    | none => exact ⟨m, none, rfl, hm.null, [], (append_nil m).symm⟩
    | some _ => exact ⟨_, _, rfl, hm.alloc false (stringCell src), _, rfl⟩
  · rcases h with hnil | halloc
    · exact absurd hnil hne
    · rw [hno] at halloc
      cases halloc

lemma copyString_of_not_passes (m : Region Cell)
    (h : ¬ (MarshalStep.copyHidlString allocated src).Passes) : copyString m allocated src = (m, none) := by
  rcases copyHidlStringToRil_cases allocated src with ⟨_, _, hpass⟩ | ⟨hcopy, -, -⟩
  · exact absurd hpass h
  · rw [copyString, hcopy]

/-- **A string** is freed once, whoever does it: after `copyString` on an empty memory the rest of the helper frees the
pointer, or returns. -/
lemma freedOnce_copyString {β : Type} (rest : Region Cell → Option ℕ → Region Cell × β) (fail : β) (str : Bool × HidlString)
    (hrest : ∀ m p, m.Owned [p] → (rest m p).1.FreedOnce) :
    (match copyString [] str.1 str.2 with
      | (m, none) => (m, fail)
      | (m, some p) => rest m p).1.FreedOnce := by
  by_cases h : (MarshalStep.copyHidlString str.1 str.2).Passes
  · obtain ⟨m, p, hcopy, hm, -⟩ := copyString_of_passes Region.owned_nil h
    rw [hcopy]
    exact hrest m p hm
  · rw [copyString_of_not_passes [] h]
    exact Region.owned_nil.freedOnce

lemma freedOnce_dispatchString (proxyId : Proxy) (str : Bool × Option (List UInt8)) :
    (dispatchString proxyId str).1.FreedOnce := by
  refine freedOnce_copyString _ false (str.1, ofCharPtr str.2) fun m p hm => ?_
  by_cases hproxy : ignoreBF proxyId = true
  · rw [if_pos hproxy]
    exact hm.freedOnce
  · rw [if_neg hproxy]
    exact hm.freedOnce

/-- A record in the stack frame with the string in it: `clearPendingBuffer` finds the pointer there. -/
lemma clearPendingBuffer_record {p : Option ℕ} (fields : List ℤ) (buflen : ℕ) {bf : BufFmt}
    (hbf : bf = .callFwst ∨ bf = .iccApdu) :
    clearPendingBuffer bf (some m.length) buflen (m.alloc true (.record fields [p]))
      = (m.alloc true (.record fields [p])).freeAll [p] := by
  have hread : (m.alloc true (.record fields [p])).read m.length = some (.record fields [p]) := by
    rw [Region.read, Region.alloc, getElem?_concat_length]
    rfl
  rcases hbf with rfl | rfl
  · simp only [clearPendingBuffer, Option.bind_some, hread]
    rfl
  · simp only [clearPendingBuffer, Option.bind_some, hread]
    rfl

lemma freedOnce_dispatchCallForwardStatus (proxyId : Proxy) (fields : List ℤ) (number : Bool × HidlString) :
    (dispatchCallForwardStatus proxyId fields number).1.FreedOnce := by
  refine freedOnce_copyString _ false number fun m p hm => ?_
  by_cases hproxy : ignoreBF proxyId = true
  · rw [if_pos hproxy]
    exact hm.freedOnce_stack _
  · rw [if_neg hproxy, myEnqueue, if_pos (by decide), clearPendingBuffer_record _ _ (.inl rfl)]
    exact hm.freedOnce_stack _

lemma freedOnce_dispatchIccApdu (fields : List ℤ) (data : Bool × HidlString) :
    (dispatchIccApdu fields data).1.FreedOnce := by
  refine freedOnce_copyString _ false data fun m p hm => ?_
  show (myEnqueue (some m.length) (4 * (fields.length + 1)) .iccApdu (m.alloc true (.record fields [p]))).FreedOnce
  rw [myEnqueue, if_pos (by decide), clearPendingBuffer_record _ _ (.inr rfl)]
  exact hm.freedOnce_stack _

/-! ## An array -/

/-- The array of a list, with the strings that have been copied and nothing behind them. -/
structure Filling (m : Region Cell) (ps : List (Option ℕ)) (left : ℕ) : Prop where
  owned : m.Owned (some 0 :: ps)
  array : m[0]? = some ⟨.pointers (ps ++ List.replicate left none), false, true, 0⟩

lemma filling_calloc (n : ℕ) : Filling (Region.alloc [] false (.pointers (List.replicate n none))) [] n :=
  ⟨Region.owned_nil.alloc false _, rfl⟩

variable {left : ℕ}

lemma Filling.pointersAt_eq (h : Filling m ps left) : pointersAt m 0 = ps ++ List.replicate left none := by
  rw [pointersAt, Region.read, h.array]
  rfl

lemma Filling.freedOnce (h : Filling m ps left) :
    ((m.freeAll ((pointersAt m 0).take ps.length)).free (some 0)).FreedOnce := by
  have hperm : (some 0 :: ps).Perm (ps ++ [some 0]) := (perm_append_singleton (some 0) ps).symm
  have honce := (h.owned.perm hperm).freedOnce
  rw [Region.freeAll, foldl_append] at honce
  rw [h.pointersAt_eq, take_left]
  exact honce

lemma Filling.next (h : Filling m ps (left + 1)) (hpass : (MarshalStep.copyHidlString allocated src).Passes) :
    ∃ m' p, copyString m allocated src = (m', some p) ∧
      Filling (m'.update 0 (setPointer ps.length p)) (ps ++ [p]) left := by
  obtain ⟨m', p, hcopy, howned, new, rfl⟩ := copyString_of_passes h.owned hpass
  refine ⟨_, p, hcopy, howned.update 0 _, ?_⟩
  have harray : (m ++ new)[0]? = some ⟨.pointers (ps ++ List.replicate (left + 1) none), false, true, 0⟩ := by
    rw [getElem?_append_left (List.getElem?_eq_some_iff.mp h.array).1, h.array]
  rw [Region.update, getElem?_modify_eq, harray, Option.map_eq_map, Option.map_some, setPointer,
    replicate_succ, set_append_right _ _ le_rfl, Nat.sub_self, set_cons_zero, append_assoc]
  rfl

/-- **The loop over the strings**: if all copies succeed each block is led to by one pointer, and if one fails
everything has been freed. -/
lemma copyLoop_ok {strs : List (Bool × HidlString)} (h : Filling m ps strs.length) :
    if ∀ str ∈ strs, (MarshalStep.copyHidlString str.1 str.2).Passes then
      ∃ m' ps', copyLoop 0 ps.length m strs = (m', true) ∧ Filling m' ps' 0 ∧ ps'.length = ps.length + strs.length
    else ∃ m', copyLoop 0 ps.length m strs = (m', false) ∧ m'.FreedOnce := by
  induction strs generalizing m ps with
  | nil =>
    exact ⟨m, ps, rfl, h, rfl⟩
  | cons str strs ih =>
    by_cases hpass : (MarshalStep.copyHidlString str.1 str.2).Passes
    · obtain ⟨m', p, hcopy, hnext⟩ := h.next hpass
      have hrest := ih hnext
      have hloop : copyLoop 0 ps.length m (str :: strs)
          = copyLoop 0 (ps ++ [p]).length (m'.update 0 (setPointer ps.length p)) strs := by
        rw [copyLoop, hcopy, length_append]
        rfl
      simp only [forall_mem_cons, hpass, true_and, hloop, length_cons]
      simp only [length_append, length_singleton, Nat.add_assoc, Nat.add_comm 1] at hrest ⊢
      exact hrest
    · rw [if_neg (by simp [hpass])]
      refine ⟨_, ?_, h.freedOnce⟩
      rw [copyLoop, copyString_of_not_passes m hpass]

lemma Filling.clearPendingBuffer_eq {n : ℕ} (h : Filling m ps left)
    (hn : ps.length = n) : clearPendingBuffer .strs (some 0) (4 * n) m = m.freeAll ps := by
  have hpointers := h.pointersAt_eq
  rw [pointersAt] at hpointers
  subst hn
  simp only [clearPendingBuffer, Option.bind_some, hpointers]
  rw [Nat.mul_div_cancel_left _ (by decide), take_left]

lemma passes_dispatchStrings_iff (array : Bool) (strs : List (Bool × HidlString)) :
    (∀ step ∈ Hal.dispatchStrings array strs, step.Passes) ↔
      array = true ∧ ∀ str ∈ strs, (MarshalStep.copyHidlString str.1 str.2).Passes := by
  rw [Hal.dispatchStrings, forall_mem_cons, forall_mem_map]
  rfl

/-- **A list of strings** is freed but for its array, if the proxy is 1 or 3. -/
lemma dispatchStringArray_spec (proxyId : Proxy) (array : Bool) (strs : List (Bool × HidlString)) :
    ((dispatchStringArray proxyId array strs).1.FreedOnce ↔
        ¬ (ignoreBF proxyId = false ∧ ∀ step ∈ Hal.dispatchStrings array strs, step.Passes))
      ∧ ((dispatchStringArray proxyId array strs).2 = true ↔ ∀ step ∈ Hal.dispatchStrings array strs, step.Passes) := by
  rw [passes_dispatchStrings_iff]
  have hfailed {m : Region Cell} (hm : m.FreedOnce) {P Q : Prop} (hQ : ¬ Q) :
      (m.FreedOnce ↔ ¬ (P ∧ Q)) ∧ (false = true ↔ Q) :=
    ⟨iff_of_true hm fun h => hQ h.2, iff_of_false Bool.false_ne_true hQ⟩
  cases array with
  | false => exact hfailed Region.owned_nil.freedOnce fun h => Bool.false_ne_true h.1
  | true =>
    have hloop := copyLoop_ok (filling_calloc strs.length)
    rw [dispatchStringArray, if_pos rfl]
    by_cases hpass : ∀ str ∈ strs, (MarshalStep.copyHidlString str.1 str.2).Passes
    · rw [if_pos hpass] at hloop
      obtain ⟨m, ps, hloop, hm, hlen⟩ := hloop
      rw [length_nil, Nat.zero_add] at hlen
      rw [length_nil] at hloop
      rw [hloop]
      cases hproxy : ignoreBF proxyId with
      | true =>
        have honce := hm.freedOnce
        rw [hlen] at honce
        exact ⟨iff_of_true honce fun h => Bool.noConfusion h.1, iff_of_true rfl ⟨rfl, hpass⟩⟩
      | false =>
        refine ⟨iff_of_false ?_ fun h => h ⟨rfl, rfl, hpass⟩, iff_of_true rfl ⟨rfl, hpass⟩⟩
        show ¬ (clearPendingBuffer .strs (some 0) (4 * strs.length) m).FreedOnce
        rw [hm.clearPendingBuffer_eq hlen]
        exact hm.owned.not_freedOnce hm.array rfl
    · rw [if_neg hpass] at hloop
      obtain ⟨m, hloop, honce⟩ := hloop
      rw [length_nil] at hloop
      rw [hloop]
      exact hfailed honce fun h => hpass h.2

lemma freedOnce_dispatchInts_iff (proxyId : Proxy) (array : Bool) (xs : List ℤ) :
    (dispatchInts proxyId array xs).1.FreedOnce ↔
      ¬ (ignoreBF proxyId = false ∧ ∀ step ∈ Hal.dispatchInts array, step.Passes) := by
  rw [Hal.dispatchInts, forall_mem_singleton, MarshalStep.Passes]
  cases array with
  | false =>
    refine iff_of_true Region.owned_nil.freedOnce ?_
    rintro ⟨-, hno⟩
    cases hno
  | true =>
    have howned : (Region.alloc [] false (Cell.ints xs)).Owned [some 0] := Region.owned_nil.alloc false _
    rw [dispatchInts, if_pos rfl]
    cases hproxy : ignoreBF proxyId with
    | true => exact iff_of_true howned.freedOnce fun h => Bool.noConfusion h.1
    | false => exact iff_of_false (howned.not_freedOnce rfl rfl) fun h => h ⟨rfl, rfl⟩

/-! ## The helpers -/

lemma ignoreBF_eq_false_iff (proxyId : Proxy) : ignoreBF proxyId = false ↔ proxyId = .proxy1 ∨ proxyId = .proxy3 := by
  rw [ignoreBF, decide_eq_false_iff_not, not_and_or, not_not, not_not]

lemma freedOnce_body_iff (proxyId : Proxy) (h : Helper) :
    (h.body proxyId).1.FreedOnce ↔
      ¬ (ignoreBF proxyId = false ∧ h.HasArray ∧ ∀ step ∈ h.steps, step.Passes) := by
  have hnone {m : Region Cell} (hm : m.FreedOnce) {P Q : Prop} : m.FreedOnce ↔ ¬ (P ∧ False ∧ Q) :=
    iff_of_true hm fun hno => hno.2.1
  have harray {P Q : Prop} : (P ∧ Q) ↔ (P ∧ True ∧ Q) := by rw [true_and]
  cases h with
  | string str => exact hnone (freedOnce_dispatchString proxyId str)
  | stringsVarargs array strs =>
    exact (dispatchStringArray_spec proxyId array _).1.trans (not_congr harray)
  | strings array data => exact (dispatchStringArray_spec proxyId array data).1.trans (not_congr harray)
  | ints array xs => exact (freedOnce_dispatchInts_iff proxyId array xs).trans (not_congr harray)
  | callForwardStatus fields number => exact hnone (freedOnce_dispatchCallForwardStatus proxyId fields number)
  | iccApdu fields data => exact hnone (freedOnce_dispatchIccApdu fields data)

/-- **Payloads are freed once** by the time the helper returns, for every request, payload and outcome of the
allocations, iff it is not an array of a request on proxy 1 or 3 that is there as a whole. -/
theorem payload_freedOnce_iff (request : ℕ) (added : Bool) (h : Helper) :
    (h.call request added).1.FreedOnce ↔
      ¬ ((proxyOf request = some .proxy1 ∨ proxyOf request = some .proxy3) ∧ added = true ∧ h.HasArray ∧
        ∀ step ∈ h.steps, step.Passes) := by
  unfold Helper.call
  cases hproxy : proxyOf request with
  | none =>
    refine iff_of_true Region.owned_nil.freedOnce ?_
    rintro ⟨hno | hno, -⟩
    · cases hno
    · cases hno
  | some proxyId =>
    rw [Option.some.injEq, Option.some.injEq, ← ignoreBF_eq_false_iff]
    cases added with
    | false =>
      refine iff_of_true Region.owned_nil.freedOnce ?_
      rintro ⟨-, hno, -⟩
      cases hno
    | true =>
      simp only [if_true, true_and]
      exact freedOnce_body_iff proxyId h

/-- `setRadioPower` passes one integer on proxy 1. -/
theorem radioPower_array_lost :
    proxyOf requestRadioPower = some .proxy1 ∧
      ((Helper.ints true [1]).call requestRadioPower true).1 = [⟨.ints [1], false, true, 0⟩] ∧
      ¬ ((Helper.ints true [1]).call requestRadioPower true).1.FreedOnce := by
  decide

/-! ## What the helper returns -/

lemma returns_copyString (rest : Region Cell → Option ℕ → Region Cell × Bool) (str : Bool × HidlString)
    (hrest : ∀ m p, (rest m p).2 = true) :
    (match copyString [] str.1 str.2 with
      | (m, none) => (m, false)
      | (m, some p) => rest m p).2 = true ↔ ∀ step ∈ Hal.dispatchString str, step.Passes := by
  rw [Hal.dispatchString, forall_mem_singleton]
  by_cases h : (MarshalStep.copyHidlString str.1 str.2).Passes
  · obtain ⟨m, p, hcopy, -⟩ := copyString_of_passes Region.owned_nil h
    rw [hcopy]
    exact iff_of_true (hrest m p) h
  · rw [copyString_of_not_passes [] h]
    exact iff_of_false Bool.false_ne_true h

/-- **The helper returns true** iff all its steps succeed, which is when the request is handed to the vendor. -/
theorem body_returns_iff (proxyId : Proxy) (h : Helper) : (h.body proxyId).2 = true ↔ marshal h.steps = .ready := by
  have hif {m m' : Region Cell} : (if ignoreBF proxyId then (m, true) else (m', true)).2 = true := by
    cases ignoreBF proxyId with
    | true => rfl
    | false => rfl
  rw [marshal_eq_ready_iff]
  cases h with
  | string str => exact returns_copyString _ (str.1, ofCharPtr str.2) fun _ _ => hif
  | stringsVarargs array strs => exact (dispatchStringArray_spec proxyId array _).2
  | strings array data => exact (dispatchStringArray_spec proxyId array data).2
  | ints array xs =>
    show (dispatchInts proxyId array xs).2 = true ↔ ∀ step ∈ Hal.dispatchInts array, step.Passes
    rw [Hal.dispatchInts, forall_mem_singleton, dispatchInts]
    cases array with
    | true => exact iff_of_true hif rfl
    | false => exact iff_of_false Bool.false_ne_true Bool.false_ne_true
  | callForwardStatus fields number => exact returns_copyString _ number fun _ _ => hif
  | iccApdu fields data => exact returns_copyString _ data fun _ _ => rfl

end Hal.Direct
