import Mathlib.Algebra.Order.Ring.Int
import Mathlib.Data.List.Induction
import Mathlib.Data.Nat.Find
import DeviceHal.Core.While

/-!
# A request to the driver and its answer

`WifiCommand::requestResponse` sends a message and then receives until an `int` that it shares with four callbacks is no
longer positive: an acknowledgement and the end of a dump make it 0, an error makes it the error's number, and a reply
leaves it alone.  What `nl_recvmsgs` itself returns is only printed.

The netlink library is a parameter: which callbacks a receive makes, in which order, and what it returns.  One
receive may make several; it stops at a callback that says so, as that for an acknowledgement does.  The sequence
numbers are not checked (`no_seq_check`), so an answer need not be one to this request.

**The defects.**  If there is no memory for the callbacks the result is 0, although nothing was sent.  If receiving
fails for good the loop goes on for ever.

* `Receive.words` — the callbacks of a receive that write to the shared `int`; the last of them counts.
* **`requestResponse_right_iff`** — when the result is as it should be.
-/

namespace Hal

open List

/-- A callback that the library makes.  `stop` is whether `handleResponse` ends the receive, `own` whether an answer is
one to this request; the number of an error is negative. -/
inductive NlCallback where
  | valid (stop : Bool)
  | ack (own : Bool)
  | finish (own : Bool)
  | error (code : ℤ) (neg : code < 0)

namespace NlCallback

def stops : NlCallback → Bool
  | valid stop => stop
  | ack _ => true
  | finish _ => false
  | error _ _ => false

/-- `response_handler`, `ack_handler`, `finish_handler` and `error_handler`: the shared `int` afterwards. -/
def call (err : ℤ) : NlCallback → ℤ
  | valid _ => err
  | ack _ => 0
  | finish _ => 0
  | error code _ => code

/-- An acknowledgement or the end of a dump. -/
def IsAnswer : NlCallback → Prop
  | ack _ => True
  | finish _ => True
  | _ => False

instance : DecidablePred IsAnswer
  | valid _ => isFalse id
  | ack _ | finish _ => isTrue trivial
  | error _ _ => isFalse id

def IsOwn : NlCallback → Prop
  | ack own => own = true
  | finish own => own = true
  | _ => False

def IsError : NlCallback → Prop
  | error _ _ => True
  | _ => False

instance : DecidablePred IsError
  | valid _ | ack _ | finish _ => isFalse id
  | error _ _ => isTrue trivial

end NlCallback

/-- A call of `nl_recvmsgs`: the callbacks for what was received, and the result. -/
structure Receive where
  callbacks : List NlCallback
  res : ℤ

/-- Up to the first that stops the receive. -/
def handled : List NlCallback → List NlCallback
  | [] => []
  | cb :: cbs => if cb.stops then [cb] else cb :: handled cbs

namespace Receive

def recvmsgs (r : Receive) (err : ℤ) : ℤ := (handled r.callbacks).foldl NlCallback.call err

def Fails (r : Receive) : Prop := r.callbacks = [] ∧ r.res ≠ 0

/-- The callbacks that write to the shared `int`. -/
def words (r : Receive) : List NlCallback := (handled r.callbacks).filter fun cb => cb.IsAnswer ∨ cb.IsError

/-- If an error is reported it is the last word, and answers to other requests come only along with one to this. -/
structure Sound (r : Receive) : Prop where
  error_last : (∃ w ∈ r.words, w.IsError) → ∃ w ∈ r.words.getLast?, w.IsError
  answer_own : (∀ w ∈ r.words, ¬ w.IsError) → r.words ≠ [] → ∃ w ∈ r.words, w.IsOwn

end Receive

/-- What the environment does: the result of `create`, whether there is memory for the callbacks, the result of
`nl_send_auto_complete`, and every receive. -/
structure Netlink where
  created : ℤ
  allocated : Bool
  sent : ℤ
  receive : ℕ → Receive

/-- The loop: the receives so far, and `err`. -/
structure ReplyWait where
  round : ℕ
  err : ℤ

/-- `err > 0`. -/
def ReplyWait.Waits (w : ReplyWait) : Prop := 0 < w.err

instance : DecidablePred ReplyWait.Waits := fun _ => inferInstanceAs (Decidable (_ < _))

namespace Netlink

def wait (o : Netlink) (w : ReplyWait) : ReplyWait := ⟨w.round + 1, (o.receive w.round).recvmsgs w.err⟩

/-- `requestResponse`, with a bound on the receives. -/
def requestResponse (fuel : ℕ) (o : Netlink) : Option ℤ :=
  if o.created < 0 then some o.created
  else if o.allocated = false then some 0
  else if o.sent < 0 then some o.sent
  else (whileLoop ReplyWait.Waits o.wait fuel ⟨0, 1⟩).map ReplyWait.err

def Returns (o : Netlink) (result : ℤ) : Prop := ∃ fuel, requestResponse fuel o = some result

def Sent (o : Netlink) : Prop := 0 ≤ o.created ∧ o.allocated = true ∧ 0 ≤ o.sent

def Made (o : Netlink) (n : ℕ) : Prop := o.Sent ∧ ∀ m ≤ n, (o.wait^[m] ⟨0, 1⟩).Waits

/-- From some point on nothing is received. -/
def FailsForGood (o : Netlink) : Prop := ∃ n, ∀ m, n ≤ m → (o.receive m).Fails

structure Right (o : Netlink) : Prop where
  zero : o.Returns 0 → ∃ n, o.Made n ∧ ∃ w ∈ (o.receive n).words, w.IsOwn
  failed : (¬ o.Sent ∨ ∃ n, o.Made n ∧ ∃ w ∈ (o.receive n).words, w.IsError) → ∃ result, o.Returns result ∧ result < 0
  failing : o.FailsForGood → ∃ result, o.Returns result

/-- The condition: there is memory; and once the request is sent, the first receive with anything to say is sound, and
there is one if receiving fails from some point on. -/
structure Regular (o : Netlink) : Prop where
  memory : 0 ≤ o.created → o.allocated = true
  sound : o.Sent → ∀ n, (∀ m < n, (o.receive m).words = []) → (o.receive n).Sound
  heard : o.Sent → o.FailsForGood → ∃ n, (o.receive n).words ≠ []

end Netlink

/-! ## One receive -/

namespace NlCallback

variable {cb : NlCallback}

lemma call_eq_self (h : ¬ (cb.IsAnswer ∨ cb.IsError)) (err : ℤ) : cb.call err = err := by
  cases cb with
  | valid _ => rfl
  | ack | finish => exact absurd (.inl trivial) h
  | error _ _ => exact absurd (.inr trivial) h

lemma call_of_isAnswer (h : cb.IsAnswer) (err : ℤ) : cb.call err = 0 := by
  cases cb with
  | valid | error => exact absurd h id
  | ack _ => rfl
  | finish _ => rfl

lemma call_of_isError (h : cb.IsError) (err : ℤ) : cb.call err < 0 := by
  cases cb with
  | valid | ack | finish => exact absurd h id
  | error _ neg => exact neg

end NlCallback

/-- **The last word counts.** -/
lemma foldl_call (err : ℤ) (cbs : List NlCallback) :
    cbs.foldl NlCallback.call err
      = ((cbs.filter fun cb => cb.IsAnswer ∨ cb.IsError).getLast?.map (NlCallback.call err)).getD err := by
  induction cbs using List.reverseRecOn with
  | nil => rfl
  | append_singleton cbs cb ih =>
    rw [foldl_append, foldl_cons, foldl_nil, filter_append]
    by_cases hword : cb.IsAnswer ∨ cb.IsError
    · have hsame : ∀ e, cb.call e = cb.call err := fun e => by
        rcases hword with hanswer | herror
        · rw [NlCallback.call_of_isAnswer hanswer, NlCallback.call_of_isAnswer hanswer]
        · cases cb with
          | error _ _ => rfl
          | _ => exact absurd herror id
      rw [filter_cons_of_pos (by simpa using hword), filter_nil, getLast?_concat, hsame]
      rfl
    · rw [filter_cons_of_neg (by simpa using hword), filter_nil, append_nil, NlCallback.call_eq_self hword, ih]

namespace Receive

variable {r : Receive} {w : NlCallback}

lemma mem_words (h : w ∈ r.words) : w.IsAnswer ∨ w.IsError :=
  of_decide_eq_true (mem_filter.mp h).2

lemma recvmsgs_of_words_eq_nil (h : r.words = []) (err : ℤ) : r.recvmsgs err = err := by
  rw [recvmsgs, foldl_call, show (handled r.callbacks).filter _ = [] from h]
  rfl

lemma recvmsgs_of_getLast? (h : r.words.getLast? = some w) (err : ℤ) : r.recvmsgs err = w.call err := by
  rw [recvmsgs, foldl_call, show ((handled r.callbacks).filter _).getLast? = some w from h]
  rfl

lemma call_nonpos (h : r.words.getLast? = some w) (err : ℤ) : w.call err ≤ 0 := by
  rcases mem_words (mem_of_getLast? h) with hanswer | herror
  · exact (NlCallback.call_of_isAnswer hanswer err).le
  · exact (NlCallback.call_of_isError herror err).le

lemma exists_getLast? (h : r.words ≠ []) : ∃ w, r.words.getLast? = some w :=
  ⟨_, getLast?_eq_some_getLast h⟩

end Receive

/-! ## The loop -/

namespace Netlink

variable {o : Netlink} {n : ℕ}

lemma iterate_wait (h : ∀ m < n, (o.receive m).words = []) : o.wait^[n] ⟨0, 1⟩ = ⟨n, 1⟩ := by
  induction n with
  | zero => rfl
  | succ n ih =>
    rw [Function.iterate_succ_apply', ih fun m hm => h m (Nat.lt_succ_of_lt hm), wait,
      Receive.recvmsgs_of_words_eq_nil (h n (Nat.lt_succ_self n))]

lemma endsIn_first {w : NlCallback} (h : ∀ m < n, (o.receive m).words = [])
    (hw : (o.receive n).words.getLast? = some w) : EndsIn ReplyWait.Waits o.wait ⟨0, 1⟩ ⟨n + 1, w.call 1⟩ := by
  refine endsIn_iff_iterate.mpr ⟨n + 1, ?_, ?_, fun m hm => ?_⟩
  · rw [Function.iterate_succ_apply', iterate_wait h, wait, Receive.recvmsgs_of_getLast? hw]
  · exact Int.not_lt.mpr (Receive.call_nonpos hw 1)
  · rw [iterate_wait fun k hk => h k (by omega)]
    exact Int.one_pos

lemma made_iff : o.Made n ↔ o.Sent ∧ ∀ m < n, (o.receive m).words = [] := by
  refine and_congr_right fun _ => ⟨fun hwaits m => ?_, fun h m hm => ?_⟩
  · -- the receives before `m` said nothing, by induction
    induction m using Nat.strongRecOn with
    | ind m ih =>
      intro hm
      by_contra hne
      obtain ⟨w, hw⟩ := Receive.exists_getLast? hne
      have hafter : o.wait^[m + 1] ⟨0, 1⟩ = ⟨m + 1, w.call 1⟩ := by
        rw [Function.iterate_succ_apply', iterate_wait fun k hk => ih k hk (by omega), wait,
          Receive.recvmsgs_of_getLast? hw]
      have hpos := hwaits (m + 1) hm
      rw [hafter] at hpos
      exact Int.not_lt.mpr (Receive.call_nonpos hw 1) hpos
  · rw [iterate_wait fun k hk => h k (by omega)]
    exact Int.one_pos

/-- **What is returned** once the request is sent. -/
lemma returns_iff (hsent : o.Sent) {result : ℤ} :
    o.Returns result ↔ ∃ n w, o.Made n ∧ (o.receive n).words.getLast? = some w ∧ w.call 1 = result := by
  obtain ⟨hcreated, halloc, hsend⟩ := hsent
  have hrun : ∀ fuel, requestResponse fuel o
      = (whileLoop ReplyWait.Waits o.wait fuel ⟨0, 1⟩).map ReplyWait.err := fun fuel => by
    rw [requestResponse, if_neg (Int.not_lt.mpr hcreated), if_neg (by simp [halloc]), if_neg (Int.not_lt.mpr hsend)]
  constructor
  · rintro ⟨fuel, hfuel⟩
    rw [hrun] at hfuel
    obtain ⟨t, ht, rfl⟩ := Option.map_eq_some_iff.mp hfuel
    have hends : EndsIn ReplyWait.Waits o.wait ⟨0, 1⟩ t := ⟨fuel, ht⟩
    have hheard : ∃ n, (o.receive n).words ≠ [] := by
      by_contra hnone
      simp only [not_exists, not_not] at hnone
      refine not_endsIn_of_forall (fun n => ?_) hends
      rw [iterate_wait fun m _ => hnone m]
      exact Int.one_pos
    have hbefore : ∀ m < Nat.find hheard, (o.receive m).words = [] := fun m hm => not_not.mp (Nat.find_min hheard hm)
    obtain ⟨w, hw⟩ := Receive.exists_getLast? (Nat.find_spec hheard)
    refine ⟨Nat.find hheard, w, made_iff.mpr ⟨⟨hcreated, halloc, hsend⟩, hbefore⟩, hw, ?_⟩
    rw [hends.unique (endsIn_first hbefore hw)]
  · rintro ⟨n, w, hmade, hw, rfl⟩
    obtain ⟨fuel, hfuel⟩ := endsIn_first (made_iff.mp hmade).2 hw
    exact ⟨fuel, by rw [hrun, hfuel]; rfl⟩

lemma made_unique {n' : ℕ} (h : o.Made n) (h' : o.Made n') (hn : (o.receive n).words ≠ [])
    (hn' : (o.receive n').words ≠ []) : n = n' := by
  rcases Nat.lt_trichotomy n n' with hlt | heq | hlt
  · exact absurd ((made_iff.mp h').2 n hlt) hn
  · exact heq
  · exact absurd ((made_iff.mp h).2 n' hlt) hn'

lemma exists_made (hsent : o.Sent) (h : ∃ n, (o.receive n).words ≠ []) : ∃ n, o.Made n ∧ (o.receive n).words ≠ [] :=
  ⟨Nat.find h, made_iff.mpr ⟨hsent, fun _ hm => not_not.mp (Nat.find_min h hm)⟩, Nat.find_spec h⟩

lemma Regular.returns_of_not_sent (h : o.Regular) (hsent : ¬ o.Sent) : ∃ result, o.Returns result ∧ result < 0 := by
  by_cases hcreated : o.created < 0
  · exact ⟨o.created, ⟨0, if_pos hcreated⟩, hcreated⟩
  · have halloc := h.memory (Int.not_lt.mp hcreated)
    have hsend : o.sent < 0 := by
      by_contra hsend
      exact hsent ⟨Int.not_lt.mp hcreated, halloc, Int.not_lt.mp hsend⟩
    refine ⟨o.sent, ⟨0, ?_⟩, hsend⟩
    rw [requestResponse, if_neg hcreated, if_neg (by simp [halloc]), if_pos hsend]

lemma returns_zero_of_not_allocated (hcreated : 0 ≤ o.created) (halloc : o.allocated = false) {result : ℤ} :
    o.Returns result ↔ result = 0 := by
  have hrun : ∀ fuel, requestResponse fuel o = some 0 := fun fuel => by
    rw [requestResponse, if_neg (Int.not_lt.mpr hcreated), if_pos halloc]
  constructor
  · rintro ⟨fuel, hfuel⟩
    rw [hrun] at hfuel
    exact (Option.some.inj hfuel).symm
  · rintro rfl
    exact ⟨0, hrun 0⟩

lemma Regular.right (h : o.Regular) : o.Right := by
  by_cases hsent : o.Sent
  · refine ⟨fun hzero => ?_, fun hfail => ?_, fun hgood => ?_⟩
    · obtain ⟨n, w, hmade, hw, hcall⟩ := (returns_iff hsent).mp hzero
      have hsound := h.sound hsent n (made_iff.mp hmade).2
      have hnone : ∀ w' ∈ (o.receive n).words, ¬ w'.IsError := fun w' hw' herror => by
        obtain ⟨last, hlast, hlastError⟩ := hsound.error_last ⟨w', hw', herror⟩
        cases hlast.symm.trans hw
        exact absurd hcall (NlCallback.call_of_isError hlastError 1).ne
      exact ⟨n, hmade, hsound.answer_own hnone (ne_nil_of_mem (mem_of_getLast? hw))⟩
    · obtain ⟨n, hmade, w, hw, herror⟩ := hfail.resolve_left (not_not.mpr hsent)
      obtain ⟨last, hlast, hlastError⟩ := (h.sound hsent n (made_iff.mp hmade).2).error_last ⟨w, hw, herror⟩
      exact ⟨last.call 1, (returns_iff hsent).mpr ⟨n, last, hmade, hlast, rfl⟩, NlCallback.call_of_isError hlastError 1⟩
    · obtain ⟨n, hmade, hne⟩ := exists_made hsent (h.heard hsent hgood)
      obtain ⟨w, hw⟩ := Receive.exists_getLast? hne
      exact ⟨w.call 1, (returns_iff hsent).mpr ⟨n, w, hmade, hw, rfl⟩⟩
  · obtain ⟨result, hresult, hneg⟩ := h.returns_of_not_sent hsent
    refine ⟨fun hzero => ?_, fun _ => ⟨result, hresult, hneg⟩, fun _ => ⟨result, hresult⟩⟩
    -- 0 is not returned: the result is what `create` or sending returned
    obtain ⟨fuel, hfuel⟩ := hzero
    unfold requestResponse at hfuel
    split_ifs at hfuel with hcreated halloc hsend
    · exact absurd (Option.some.inj hfuel) hcreated.ne
    · exact absurd (h.memory (Int.not_lt.mp hcreated)) (by simp [halloc])
    · exact absurd (Option.some.inj hfuel) hsend.ne
    · exact absurd ⟨Int.not_lt.mp hcreated, by simpa using halloc, Int.not_lt.mp hsend⟩ hsent

lemma Right.regular (h : o.Right) : o.Regular where
  memory hcreated := by
    by_contra halloc
    rw [Bool.not_eq_true] at halloc
    obtain ⟨result, hresult, hneg⟩ := h.failed (.inl fun hsent => by simp [hsent.2.1] at halloc)
    exact absurd ((returns_zero_of_not_allocated hcreated halloc).mp hresult) hneg.ne
  sound hsent n hbefore := by
    have hmade : o.Made n := made_iff.mpr ⟨hsent, hbefore⟩
    constructor
    · rintro ⟨w, hw, herror⟩
      obtain ⟨result, hresult, hneg⟩ := h.failed (.inr ⟨n, hmade, w, hw, herror⟩)
      obtain ⟨n', w', hmade', hw', rfl⟩ := (returns_iff hsent).mp hresult
      obtain rfl := made_unique hmade hmade' (ne_nil_of_mem hw) (ne_nil_of_mem (mem_of_getLast? hw'))
      refine ⟨w', hw', (Receive.mem_words (mem_of_getLast? hw')).resolve_left fun hanswer => ?_⟩
      exact absurd (NlCallback.call_of_isAnswer hanswer 1) hneg.ne
    · intro hnone hne
      obtain ⟨w, hw⟩ := Receive.exists_getLast? hne
      have hmem := mem_of_getLast? hw
      have hanswer := (Receive.mem_words hmem).resolve_right (hnone w hmem)
      have hzero : o.Returns 0 :=
        (returns_iff hsent).mpr ⟨n, w, hmade, hw, NlCallback.call_of_isAnswer hanswer 1⟩
      obtain ⟨n', hmade', w', hw', hown⟩ := h.zero hzero
      obtain rfl := made_unique hmade hmade' hne (ne_nil_of_mem hw')
      exact ⟨w', hw', hown⟩
  heard hsent hgood := by
    obtain ⟨result, hresult⟩ := h.failing hgood
    obtain ⟨n, w, -, hw, -⟩ := (returns_iff hsent).mp hresult
    exact ⟨n, ne_nil_of_mem (mem_of_getLast? hw)⟩

/-- **The result of a request.**  Whatever happens, 0 is returned only after an answer to the request, a negative number
if it was not sent or an error was reported, and something also if receiving fails for good, iff there is memory for the
callbacks, the first receive with anything to say has its error last and an answer to this request if it has answers
only, and there is such a receive if receiving fails from some point on. -/
theorem requestResponse_right_iff (o : Netlink) : o.Right ↔ o.Regular := ⟨Right.regular, Regular.right⟩

/-- A reply and then the acknowledgement. -/
example : requestResponse 3 ⟨0, true, 36, fun n => if n = 0 then ⟨[.valid false], 0⟩ else ⟨[.ack true], 0⟩⟩
    = some 0 := by
  decide

/-- **The defects**: without memory for the callbacks 0 is returned although nothing was sent, and if every receive
fails there is no result. -/
theorem request_unsent_returns_zero :
    (Returns ⟨0, false, 0, fun _ => ⟨[], 0⟩⟩ 0 ∧ ¬ Right ⟨0, false, 0, fun _ => ⟨[], 0⟩⟩)
      ∧ (∀ result, ¬ Returns ⟨0, true, 36, fun _ => ⟨[], -1⟩⟩ result) ∧ ¬ Right ⟨0, true, 36, fun _ => ⟨[], -1⟩⟩ := by
  have hnever : ∀ result, ¬ Returns ⟨0, true, 36, fun _ => ⟨[], -1⟩⟩ result := by
    intro result hresult
    obtain ⟨n, w, -, hw, -⟩ := (returns_iff ⟨by decide, rfl, by decide⟩).mp hresult
    exact absurd hw (by simp [Receive.words, handled])
  refine ⟨⟨⟨0, rfl⟩, fun hright => ?_⟩, hnever, fun hright => ?_⟩
  · exact absurd (hright.regular.memory (by decide)) (by decide)
  · obtain ⟨result, hresult⟩ := hright.failing ⟨0, fun m _ => ⟨rfl, Int.neg_ne_zero.mpr Int.one_ne_zero⟩⟩
    exact hnever result hresult

end Netlink

end Hal
