import Mathlib.Algebra.Order.Ring.Int
import DeviceHal.Wifi.ScanResults

/-!
# Channel lists and feature matrices

`wifi_get_valid_channels` and `wifi_get_concurrency_matrix` both ask the driver for a list.  A reply has attributes
with a number and attributes with elements, in any order; the number is stored for the caller and says how much is
taken from the elements: for channels, one attribute holds all of them, for features, each attribute holds one.

What an element of the caller's array was taken from is its `source`: an address, and the attribute that was meant.

**The defects.**  The number is a `uint32_t` in the reply and an `int` in the code, and is only bounded from above (for
features not at all if the maximum is 0).  How long the attribute with the elements is, and whether there is one, is not
looked at.

* **`counted_lists_right_iff`** — for which replies the count and the elements are right.
-/

namespace Hal

open List Option

def wifiAttributeNumChannels : ℕ := 2

def wifiAttributeChannelList : ℕ := 3

def wifiAttributeNumFeatureSet : ℕ := 4

def wifiAttributeFeatureSet : ℕ := 5

/-- What `handleResponse` returns to libnl. -/
inductive NlReturn where
  | ok
  | skip

/-! ## The reply -/

/-- A visit of the loop.  What it ignores whatever the state is left out. -/
inductive CountedVisit where
  | number (v : ℤ)
  | elements (data len : ℕ)

/-- The body of the loop, as far as it looks at the message.  The length of an attribute that `has_next` accepts is not
negative. -/
def countedVisit (numberType listType : ℕ) (mem : Memory) (attr : ℕ) : Option CountedVisit :=
  if nlaType mem attr = numberType then some (.number (int32 (u32At mem (nlaData attr))))
  else if nlaType mem attr = listType then some (.elements (nlaData attr) (nlaLen mem attr).toNat)
  else none

def countedVisits (numberType listType : ℕ) (mem : Memory) (attr : ℕ) : List CountedVisit :=
  (attrs mem attr).filterMap (countedVisit numberType listType mem)

/-- The vendor data, if the reply is not ignored. -/
def DriverReply.vendorAttr (reply : DriverReply) : Option ℕ :=
  if reply.isVendor = false ∨ reply.vendorDataLen = 0 then none else reply.vendorData

def DriverReply.counted (numberType listType : ℕ) (reply : DriverReply) : List CountedVisit :=
  match reply.vendorAttr with
  | none => []
  | some attr => countedVisits numberType listType reply.mem attr

/-! ## The handlers -/

/-- Where an element was taken from: the address, and the attribute. -/
structure Origin where
  addr : ℕ
  data : ℕ
  len : ℕ
deriving DecidableEq

/-- The four bytes are in the attribute. -/
def Origin.Inside (o : Origin) : Prop := o.data ≤ o.addr ∧ o.addr + 4 ≤ o.data + o.len

instance : DecidablePred Origin.Inside := fun _ => inferInstanceAs (Decidable (_ ∧ _))

/-- The local variables of the loop (`num_channels` or `num_features_set`, and `i`), the caller's count, and where each
element of the caller's array that was written was taken from. -/
structure ListState where
  num : ℤ
  i : ℕ
  count : ℤ
  source : ℕ → Option Origin

/-- `before` is what the caller's variable holds when the reply comes. -/
def ListState.start (before : ℤ) : ListState := ⟨0, 0, before, fun _ => none⟩

def channelCap (max v : ℤ) : ℤ := if v > max then max else v

/-- The number of elements in `sizeof(wifi_channel) * num_channels` bytes: a `size_t` has 32 bits. -/
def memcpyElements (num : ℤ) : ℕ := (4 * num % 4294967296).toNat / 4

/-- The loop of `GetChannelListCommand::handleResponse`. -/
def channelVisit (max : ℤ) (s : ListState) : CountedVisit → ListState
  | .number v => { s with num := channelCap max v, count := channelCap max v }
  | .elements data len =>
    if s.num ≠ 0 then
      { s with source := fun i => if i < memcpyElements s.num then some ⟨data + 4 * i, data, len⟩ else s.source i }
    else s

/-- `GetChannelListCommand::handleResponse`. -/
def getChannelListHandleResponse (max before : ℤ) (reply : DriverReply) : NlReturn × ListState :=
  match reply.vendorAttr with
  | none => (.skip, .start before)
  | some attr =>
    (.ok, (countedVisits wifiAttributeNumChannels wifiAttributeChannelList reply.mem attr).foldl (channelVisit max)
      (.start before))

def featureCap (max v : ℤ) : ℤ := if max ≠ 0 ∧ v > max then max else v

/-- The loop of `GetFeatureSetCommand::handleResponse`. -/
def featureVisit (max : ℤ) (s : ListState) : CountedVisit → ListState
  | .number v => { s with num := featureCap max v, count := featureCap max v }
  | .elements data len =>
    if (s.i : ℤ) < s.num then
      { s with source := fun i => if i = s.i then some ⟨data, data, len⟩ else s.source i, i := s.i + 1 }
    else s

/-- The members of `GetFeatureSetCommand`: which of its pointers are set. -/
structure FeatureQuery where
  featureType : ℕ
  fset : Bool
  featureMatrix : Bool
  fmSize : Bool
  setSizeMax : ℤ

/-- What a reply leaves: how many bytes were copied to `fset`, and the matrix. -/
structure FeatureReply where
  ret : NlReturn
  fsetBytes : ℤ
  matrix : ListState

/-- `GetFeatureSetCommand::handleResponse`. -/
def getFeatureSetHandleResponse (q : FeatureQuery) (before : ℤ) (reply : DriverReply) : FeatureReply :=
  match reply.vendorAttr with
  | none => ⟨.skip, 0, .start before⟩
  | some attr =>
    if q.featureType = wifiAttributeFeatureSet then
      if q.fset = false then ⟨.skip, 0, .start before⟩
      else ⟨.ok, min reply.vendorDataLen 4, .start before⟩
    else if q.featureType = wifiAttributeNumFeatureSet then
      if q.featureMatrix = false ∨ q.fmSize = false then ⟨.skip, 0, .start before⟩
      else
        ⟨.ok, 0, (countedVisits wifiAttributeNumFeatureSet wifiAttributeFeatureSet reply.mem attr).foldl
          (featureVisit q.setSizeMax) (.start before)⟩
    else ⟨.ok, 0, .start before⟩

/-- The command of `wifi_get_concurrency_matrix`, with an array and a count of the caller. -/
def concurrencyMatrixQuery (setSizeMax : ℤ) : FeatureQuery where
  featureType := wifiAttributeNumFeatureSet
  fset := false
  featureMatrix := true
  fmSize := true
  setSizeMax := setSizeMax

/-! ## What is asked of them -/

/-- The count is between 0 and the maximum, the elements below it are taken from inside attributes with elements, and no
element is written where there is no room for it. -/
structure ListState.Right (max : ℤ) (visits : List CountedVisit) (s : ListState) : Prop where
  nonneg : 0 ≤ s.count
  le_max : s.count ≤ max
  inside : ∀ i : ℕ, (i : ℤ) < s.count → ∃ o, s.source i = some o ∧ o.Inside ∧ .elements o.data o.len ∈ visits
  room : ∀ i : ℕ, s.source i ≠ none → (i : ℤ) < max

/-! ## The number announced last -/

def numbers (visits : List CountedVisit) : List ℤ :=
  visits.filterMap fun
    | .number v => some v
    | .elements _ _ => none

lemma numbers_cons_number (v : ℤ) (visits : List CountedVisit) :
    numbers (.number v :: visits) = v :: numbers visits := rfl

lemma numbers_cons_elements (data len : ℕ) (visits : List CountedVisit) :
    numbers (.elements data len :: visits) = numbers visits := rfl

/-- The number announced last, bounded by the cap; without one, what the caller's variable holds. -/
def lastNumber (cap : ℤ → ℤ) (before : ℤ) (visits : List CountedVisit) : ℤ :=
  ((numbers visits).getLast?.map cap).getD before

/-- **The count is the number announced last.** -/
lemma count_foldl {visit : ListState → CountedVisit → ListState} {cap : ℤ → ℤ}
    (hnumber : ∀ s v, (visit s (.number v)).count = cap v)
    (helements : ∀ s data len, (visit s (.elements data len)).count = s.count) (visits : List CountedVisit)
    (s : ListState) : (visits.foldl visit s).count = lastNumber cap s.count visits := by
  induction visits generalizing s with
  | nil => rfl
  | cons v visits ih =>
    rw [foldl_cons, ih]
    cases v with
    | number v =>
      rw [hnumber, lastNumber, lastNumber, numbers_cons_number, getLast?_cons]
      cases (numbers visits).getLast? <;> rfl
    | elements data len => rw [helements, lastNumber, lastNumber, numbers_cons_elements]

variable {max : ℤ} {visits : List CountedVisit}

/-- What is asked, of a state of which the count and the sources are known: the number fits, no source is without room,
and the elements below the count are covered. -/
lemma right_iff_of {count : ℤ} {s : ListState} {source : ℕ → Option Origin}
    {number room : Prop} (hcount : s.count = count) (hsource : ∀ i, s.source i = source i)
    (helements : ∀ i o, source i = some o → .elements o.data o.len ∈ visits)
    (hnumber : (0 ≤ count ∧ count ≤ max) ↔ number)
    (hroom : 0 ≤ max → ((∀ i : ℕ, source i ≠ none → (i : ℤ) < max) ↔ room)) :
    s.Right max visits ↔ number ∧ room ∧ ∀ i : ℕ, (i : ℤ) < count → ∃ o, source i = some o ∧ o.Inside := by
  subst hcount
  obtain rfl : s.source = source := funext hsource
  constructor
  · intro h
    have hmax : 0 ≤ max := h.nonneg.trans h.le_max
    refine ⟨hnumber.mp ⟨h.nonneg, h.le_max⟩, (hroom hmax).mp h.room, fun i hi => ?_⟩
    obtain ⟨o, ho, hinside, -⟩ := h.inside i hi
    exact ⟨o, ho, hinside⟩
  · rintro ⟨hfits, hwritten, hcovered⟩
    obtain ⟨hnonneg, hle⟩ := hnumber.mpr hfits
    refine ⟨hnonneg, hle, fun i hi => ?_, (hroom (hnonneg.trans hle)).mpr hwritten⟩
    obtain ⟨o, ho, hinside⟩ := hcovered i hi
    exact ⟨o, ho, hinside, helements i o ho⟩

/-! ## Channels -/

/-- A copy: how many elements, and the attribute. -/
structure ListCopy where
  n : ℕ
  data : ℕ
  len : ℕ

/-- Where the copy takes element `i` from. -/
def ListCopy.origin (i : ℕ) (c : ListCopy) : Option Origin :=
  if i < c.n then some ⟨c.data + 4 * i, c.data, c.len⟩ else none

/-- The attributes with channels, each with the number announced before it. -/
def listCopies (max : ℤ) : ℤ → List CountedVisit → List ListCopy
  | _, [] => []
  | _, .number v :: visits => listCopies max (channelCap max v) visits
  | num, .elements data len :: visits =>
    if num ≠ 0 then ⟨memcpyElements num, data, len⟩ :: listCopies max num visits else listCopies max num visits

/-- The last copy that goes as far as element `i`. -/
def lastCopy (max : ℤ) (visits : List CountedVisit) (i : ℕ) : Option Origin :=
  ((listCopies max 0 visits).filterMap (ListCopy.origin i)).getLast?

/-- The replies for which the channels are right.  The number is not negative; no copy is larger than the array (one
for a negative number may be); and for each element the last copy that reaches it takes it from inside its
attribute. -/
structure ChannelsRegular (max before : ℤ) (visits : List CountedVisit) : Prop where
  number : match (numbers visits).getLast? with
    | none => 0 ≤ before ∧ before ≤ max
    | some v => 0 ≤ v ∧ 0 ≤ max
  room : ∀ c ∈ listCopies max 0 visits, (c.n : ℤ) ≤ max
  covered : ∀ i : ℕ, (i : ℤ) < lastNumber (channelCap max) before visits →
    ∃ o, lastCopy max visits i = some o ∧ o.Inside

/-- **An element is taken from the last copy that goes so far.** -/
lemma source_foldl_channelVisit (max : ℤ) (i : ℕ) (visits : List CountedVisit) (s : ListState) :
    (visits.foldl (channelVisit max) s).source i
      = ((listCopies max s.num visits).filterMap (ListCopy.origin i)).getLast?.or (s.source i) := by
  induction visits generalizing s with
  | nil => rfl
  | cons v visits ih =>
    rw [foldl_cons, ih]
    cases v with
    | number v => rfl
    | elements data len =>
      by_cases hnum : s.num ≠ 0
      · simp only [channelVisit, listCopies, if_pos hnum]
        by_cases hi : i < memcpyElements s.num
        · have horigin : ListCopy.origin i ⟨memcpyElements s.num, data, len⟩ = some ⟨data + 4 * i, data, len⟩ :=
            if_pos hi
          rw [filterMap_cons_some horigin, getLast?_cons, if_pos hi]
          cases (List.filterMap _ _).getLast? <;> rfl
        · have horigin : ListCopy.origin i ⟨memcpyElements s.num, data, len⟩ = none := if_neg hi
          rw [filterMap_cons_none horigin, if_neg hi]
      · simp only [channelVisit, listCopies, if_neg hnum]

lemma elements_mem_of_listCopies {c : ListCopy} {visits : List CountedVisit} {num : ℤ}
    (hc : c ∈ listCopies max num visits) : .elements c.data c.len ∈ visits := by
  induction visits generalizing num with
  | nil => exact absurd hc not_mem_nil
  | cons v visits ih =>
    cases v with
    | number v => exact mem_cons_of_mem _ (ih hc)
    | elements data len =>
      rw [listCopies] at hc
      split_ifs at hc
      · rcases mem_cons.mp hc with rfl | hc
        · exact mem_cons_self
        · exact mem_cons_of_mem _ (ih hc)
      · exact mem_cons_of_mem _ (ih hc)

variable {i : ℕ} {o : Origin}

lemma exists_copy_of_lastCopy
    (h : lastCopy max visits i = some o) : ∃ c ∈ listCopies max 0 visits, c.origin i = some o :=
  mem_filterMap.mp (mem_of_getLast? h)

lemma elements_mem_of_lastCopy (h : lastCopy max visits i = some o) : .elements o.data o.len ∈ visits := by
  obtain ⟨c, hc, horigin⟩ := exists_copy_of_lastCopy h
  unfold ListCopy.origin at horigin
  split_ifs at horigin
  cases horigin
  exact elements_mem_of_listCopies hc

lemma lastCopy_ne_none_iff : lastCopy max visits i ≠ none ↔ ∃ c ∈ listCopies max 0 visits, i < c.n := by
  constructor
  · intro h
    obtain ⟨o, ho⟩ := ne_none_iff_exists'.mp h
    obtain ⟨c, hc, horigin⟩ := exists_copy_of_lastCopy ho
    refine ⟨c, hc, ?_⟩
    by_contra hnot
    rw [ListCopy.origin, if_neg hnot] at horigin
    cases horigin
  · rintro ⟨c, hc, hi⟩ hnone
    have hnil := List.getLast?_eq_none_iff.mp hnone
    have horigin := filterMap_eq_nil_iff.mp hnil c hc
    rw [ListCopy.origin, if_pos hi] at horigin
    cases horigin

lemma lastNumber_channelCap_iff {before : ℤ} :
    (0 ≤ lastNumber (channelCap max) before visits ∧ lastNumber (channelCap max) before visits ≤ max)
      ↔ match (numbers visits).getLast? with
        | none => 0 ≤ before ∧ before ≤ max
        | some v => 0 ≤ v ∧ 0 ≤ max := by
  unfold lastNumber
  cases (numbers visits).getLast? with
  | none => exact Iff.rfl
  | some v =>
    simp only [map_some, getD_some, channelCap]
    split_ifs with hv <;> omega

lemma lastCopy_room_iff (hmax : 0 ≤ max) :
    (∀ i : ℕ, lastCopy max visits i ≠ none → (i : ℤ) < max) ↔ ∀ c ∈ listCopies max 0 visits, (c.n : ℤ) ≤ max := by
  constructor
  · intro h c hc
    by_contra hlarge
    -- the element behind the array that the copy writes
    have hwritten := h max.toNat (lastCopy_ne_none_iff.mpr ⟨c, hc, by omega⟩)
    omega
  · intro h i hi
    obtain ⟨c, hc, hic⟩ := lastCopy_ne_none_iff.mp hi
    have hroom := h c hc
    omega

lemma channels_right_iff (max before : ℤ) (visits : List CountedVisit) :
    (visits.foldl (channelVisit max) (.start before)).Right max visits ↔ ChannelsRegular max before visits := by
  have hcount : (visits.foldl (channelVisit max) (.start before)).count = lastNumber (channelCap max) before visits :=
    count_foldl (fun _ _ => rfl) (fun s data len => by unfold channelVisit; split_ifs <;> rfl) visits (.start before)
  have hsource : ∀ i, (visits.foldl (channelVisit max) (.start before)).source i = lastCopy max visits i := fun i =>
    (source_foldl_channelVisit max i visits (.start before)).trans (or_none)
  rw [right_iff_of hcount hsource (fun _ _ => elements_mem_of_lastCopy) lastNumber_channelCap_iff lastCopy_room_iff]
  exact ⟨fun ⟨hnumber, hroom, hcovered⟩ => ⟨hnumber, hroom, hcovered⟩, fun h => ⟨h.number, h.room, h.covered⟩⟩

/-! ## Features -/

/-- The attributes that are read, with `i` read before: those visited while fewer than the number announced were. -/
def listTaken (max : ℤ) : ℤ → ℕ → List CountedVisit → List Origin
  | _, _, [] => []
  | _, i, .number v :: visits => listTaken max (featureCap max v) i visits
  | num, i, .elements data len :: visits =>
    if (i : ℤ) < num then ⟨data, data, len⟩ :: listTaken max num (i + 1) visits else listTaken max num i visits

/-- The replies for which the features are right.  The number is not negative, and is 0 if the maximum is; so much is
read as there is room for; and as many attributes are read as are announced, each with four bytes. -/
structure FeaturesRegular (max before : ℤ) (visits : List CountedVisit) : Prop where
  number : match (numbers visits).getLast? with
    | none => 0 ≤ before ∧ before ≤ max
    | some v => 0 ≤ v ∧ 0 ≤ max ∧ (max = 0 → v = 0)
  room : ((listTaken max 0 0 visits).length : ℤ) ≤ max
  covered : ∀ i : ℕ, (i : ℤ) < lastNumber (featureCap max) before visits →
    ∃ o, (listTaken max 0 0 visits)[i]? = some o ∧ o.Inside

/-- **An element is taken from the attribute with its index among those that are read.** -/
lemma source_foldl_featureVisit (max : ℤ) (j : ℕ) (visits : List CountedVisit) (s : ListState)
    (hs : ∀ k, s.i ≤ k → s.source k = none) : (visits.foldl (featureVisit max) s).source j
      = if j < s.i then s.source j else (listTaken max s.num s.i visits)[j - s.i]? := by
  induction visits generalizing s with
  | nil =>
    by_cases hj : j < s.i
    · rw [if_pos hj]
      rfl
    · rw [if_neg hj]
      exact hs j (by omega)
  | cons v visits ih =>
    rw [foldl_cons]
    cases v with
    | number v => exact ih _ hs
    | elements data len =>
      by_cases hi : (s.i : ℤ) < s.num
      · simp only [featureVisit, listTaken, if_pos hi]
        rw [ih _ (fun k hk => (if_neg (by dsimp only at hk; omega)).trans (hs k (by dsimp only at hk; omega)))]
        -- below `i`, at `i`, and above it
        rcases Nat.lt_trichotomy j s.i with hlt | rfl | hgt
        · rw [if_pos (Nat.lt_succ_of_lt hlt), if_pos hlt]
          exact if_neg (by omega)
        · simp
        · rw [if_neg (Nat.not_lt_of_le hgt), if_neg (by omega)]
          have hsub : j - s.i = (j - (s.i + 1)) + 1 := by omega
          rw [hsub, getElem?_cons_succ]
      · simp only [featureVisit, listTaken, if_neg hi]
        exact ih s hs

lemma elements_mem_of_listTaken {visits : List CountedVisit} {num : ℤ}
    (ho : o ∈ listTaken max num i visits) : .elements o.data o.len ∈ visits := by
  induction visits generalizing num i with
  | nil => exact absurd ho not_mem_nil
  | cons v visits ih =>
    cases v with
    | number v => exact mem_cons_of_mem _ (ih ho)
    | elements data len =>
      rw [listTaken] at ho
      split_ifs at ho
      · rcases mem_cons.mp ho with rfl | ho
        · exact mem_cons_self
        · exact mem_cons_of_mem _ (ih ho)
      · exact mem_cons_of_mem _ (ih ho)

lemma lastNumber_featureCap_iff {before : ℤ} :
    (0 ≤ lastNumber (featureCap max) before visits ∧ lastNumber (featureCap max) before visits ≤ max)
      ↔ match (numbers visits).getLast? with
        | none => 0 ≤ before ∧ before ≤ max
        | some v => 0 ≤ v ∧ 0 ≤ max ∧ (max = 0 → v = 0) := by
  unfold lastNumber
  cases (numbers visits).getLast? with
  | none => exact Iff.rfl
  | some v =>
    simp only [map_some, getD_some, featureCap]
    split_ifs with hv <;> omega

/-- No element is written without room iff not too many attributes are read. -/
lemma listTaken_room_iff (hmax : 0 ≤ max) :
    (∀ i : ℕ, (listTaken max 0 0 visits)[i]? ≠ none → (i : ℤ) < max)
      ↔ ((listTaken max 0 0 visits).length : ℤ) ≤ max := by
  constructor
  · intro h
    by_contra hlarge
    have hwritten := h max.toNat (by
      rw [getElem?_eq_getElem (by omega)]
      exact some_ne_none _)
    omega
  · intro h i hi
    obtain ⟨o, ho⟩ := ne_none_iff_exists'.mp hi
    obtain ⟨hlt, -⟩ := List.getElem?_eq_some_iff.mp ho
    omega

lemma features_right_iff (max before : ℤ) (visits : List CountedVisit) :
    (visits.foldl (featureVisit max) (.start before)).Right max visits ↔ FeaturesRegular max before visits := by
  have hcount : (visits.foldl (featureVisit max) (.start before)).count = lastNumber (featureCap max) before visits :=
    count_foldl (fun _ _ => rfl) (fun s data len => by unfold featureVisit; split_ifs <;> rfl) visits (.start before)
  have hsource : ∀ i, (visits.foldl (featureVisit max) (.start before)).source i = (listTaken max 0 0 visits)[i]? :=
    fun i => (source_foldl_featureVisit max i visits (.start before) fun _ _ => rfl).trans (if_neg (Nat.not_lt_zero i))
  rw [right_iff_of hcount hsource (fun _ _ ho => elements_mem_of_listTaken (mem_of_getElem? ho))
    lastNumber_featureCap_iff listTaken_room_iff]
  exact ⟨fun ⟨hnumber, hroom, hcovered⟩ => ⟨hnumber, hroom, hcovered⟩, fun h => ⟨h.number, h.room, h.covered⟩⟩

/-! ## Both commands -/

lemma getChannelListHandleResponse_snd (max before : ℤ) (reply : DriverReply) :
    (getChannelListHandleResponse max before reply).2
      = (reply.counted wifiAttributeNumChannels wifiAttributeChannelList).foldl (channelVisit max) (.start before) := by
  unfold getChannelListHandleResponse DriverReply.counted
  cases reply.vendorAttr <;> rfl

lemma getFeatureSetHandleResponse_matrix (max before : ℤ) (reply : DriverReply) :
    (getFeatureSetHandleResponse (concurrencyMatrixQuery max) before reply).matrix
      = (reply.counted wifiAttributeNumFeatureSet wifiAttributeFeatureSet).foldl (featureVisit max)
          (.start before) := by
  unfold getFeatureSetHandleResponse DriverReply.counted
  cases reply.vendorAttr <;> rfl

/-- **Channel lists and feature matrices.**  The count and the elements of the caller are right iff the reply is
regular. -/
theorem counted_lists_right_iff (max before : ℤ) (reply : DriverReply) :
    ((getChannelListHandleResponse max before reply).2.Right max
        (reply.counted wifiAttributeNumChannels wifiAttributeChannelList)
      ↔ ChannelsRegular max before (reply.counted wifiAttributeNumChannels wifiAttributeChannelList))
    ∧ ((getFeatureSetHandleResponse (concurrencyMatrixQuery max) before reply).matrix.Right max
        (reply.counted wifiAttributeNumFeatureSet wifiAttributeFeatureSet)
      ↔ FeaturesRegular max before (reply.counted wifiAttributeNumFeatureSet wifiAttributeFeatureSet)) := by
  rw [getChannelListHandleResponse_snd, getFeatureSetHandleResponse_matrix]
  exact ⟨channels_right_iff max before _, features_right_iff max before _⟩

/-- A reply with a number and, in another attribute, four bytes. -/
def countedReply (numberType listType n sign : UInt8) : DriverReply where
  mem := .ofList ([20, 0, 197, 0] ++ [8, 0, numberType, 0, n, sign, sign, sign] ++ [8, 0, listType, 0, 1, 2, 3, 4])
  isVendor := true
  vendorData := some 0
  vendorDataLen := 16

/-- **The defects**: a count of -1; two channels from an attribute with one; a matrix of two sets for a maximum of 0,
and of two sets, the second never written. -/
theorem counts_not_checked :
    (getChannelListHandleResponse 8 0 (countedReply 2 3 255 255)).2.count = -1
      ∧ ((getChannelListHandleResponse 8 0 (countedReply 2 3 2 0)).2.count = 2
          ∧ (getChannelListHandleResponse 8 0 (countedReply 2 3 2 0)).2.source 1 = some ⟨20, 16, 4⟩
          ∧ ¬ (⟨20, 16, 4⟩ : Origin).Inside)
      ∧ (getFeatureSetHandleResponse (concurrencyMatrixQuery 0) 0 (countedReply 4 5 2 0)).matrix.count = 2
      ∧ (getFeatureSetHandleResponse (concurrencyMatrixQuery 8) 0 (countedReply 4 5 2 0)).matrix.count = 2
      ∧ (getFeatureSetHandleResponse (concurrencyMatrixQuery 8) 0 (countedReply 4 5 2 0)).matrix.source 1 = none := by
  decide +kernel

end Hal
