import Mathlib.Data.List.Nodup

/-!
# Circular doubly linked lists

An intrusive list keeps its links inside the nodes and closes on a sentinel, so that insertion and
removal need no special cases.  `Links` is the memory behind the links, of all nodes of all lists
at once; `Ring L h l` says that from the sentinel `h` the links run through exactly the nodes `l`
and back, in both directions.

* `Ring.insertBefore`, `Ring.unlink` — what the two pointer operations do to a ring.
* `Ring.insertBefore_of_disjoint`, `Ring.unlink_of_disjoint` — and that they leave every other
  ring alone.
* `Ring.nodes_eq` — walking the links reads the list off.
-/

namespace Hal

open List Function

variable {α : Type*}

structure Links (α : Type*) where
  next : α → α
  prev : α → α

namespace Links

variable [DecidableEq α]

def insertBefore (L : Links α) (ev node : α) : Links α where
  next := update (update L.next ev node) (L.prev node) ev
  prev := update (update L.prev ev (L.prev node)) node ev

/-- Take `ev` out, and set its own links to `null`. -/
def unlink (L : Links α) (null ev : α) : Links α where
  next := update (update L.next (L.prev ev) (L.next ev)) ev null
  prev := update (update L.prev (L.next ev) (L.prev ev)) ev null

/-- The nodes met from `node` on before `h`, at most `fuel` of them. -/
def nodesFrom (L : Links α) (h : α) : ℕ → α → List α
  | 0, _ => []
  | fuel + 1, node => if node = h then [] else node :: nodesFrom L h fuel (L.next node)

/-- The nodes of the list with sentinel `h`. -/
def nodes (L : Links α) (h : α) (fuel : ℕ) : List α := L.nodesFrom h fuel (L.next h)

end Links

/-! ## Segments -/

/-- From `a` the links run through `l` to `b`, and back. -/
def Seg (L : Links α) : α → List α → α → Prop
  | a, [], b => L.next a = b ∧ L.prev b = a
  | a, x :: l, b => (L.next a = x ∧ L.prev x = a) ∧ Seg L x l b

variable {L : Links α} {x h a b : α} {l : List α}

lemma seg_append {l₁ l₂ : List α} : Seg L a (l₁ ++ x :: l₂) b ↔ Seg L a l₁ x ∧ Seg L x l₂ b := by
  induction l₁ generalizing a with
  | nil => rfl
  | cons y l₁ ih =>
    simp only [cons_append, Seg, ih, and_assoc]

/-- A segment only reads the `next` of its nodes but the last, and the `prev` of all but the
first. -/
lemma Seg.congr {L' : Links α} (h : Seg L a l b)
    (hnext : ∀ x ∈ a :: l, L'.next x = L.next x) (hprev : ∀ x ∈ b :: l, L'.prev x = L.prev x) : Seg L' a l b := by
  induction l generalizing a with
  | nil =>
    rcases h with ⟨hn, hp⟩
    exact ⟨(hnext a mem_cons_self).trans hn, (hprev b mem_cons_self).trans hp⟩
  | cons x l ih =>
    rcases h with ⟨⟨hn, hp⟩, hrest⟩
    refine ⟨⟨(hnext a mem_cons_self).trans hn, (hprev x (by simp)).trans hp⟩, ?_⟩
    refine ih hrest (fun y hy => hnext y (mem_cons_of_mem a hy)) fun y hy => hprev y ?_
    rcases mem_cons.mp hy with rfl | hy
    · exact mem_cons_self
    · exact mem_cons_of_mem b (mem_cons_of_mem x hy)

lemma Seg.prev_mem (h : Seg L a l b) : L.prev b ∈ a :: l := by
  induction l generalizing a with
  | nil => rw [h.2]; exact mem_cons_self
  | cons x l ih => exact mem_cons_of_mem a (ih h.2)

lemma Seg.next_mem (h : Seg L a l b) : L.next a ∈ b :: l := by
  cases l with
  | nil => rw [h.1]; exact mem_cons_self
  | cons x l => rw [h.1.1]; simp

/-! ## Rings -/

/-- The links close: from the sentinel `h` through the distinct nodes `l` back to `h`. -/
structure Ring (L : Links α) (h : α) (l : List α) : Prop where
  seg : Seg L h l h
  nodup : (h :: l).Nodup

lemma ring_nil (hnext : L.next h = h) (hprev : L.prev h = h) : Ring L h [] := ⟨⟨hnext, hprev⟩, by simp⟩

lemma Ring.ne_sentinel (hr : Ring L h l) (hx : x ∈ l) : x ≠ h :=
  ne_of_mem_of_not_mem hx (nodup_cons.mp hr.nodup).1

lemma Ring.next_sentinel (hr : Ring L h l) : L.next h = l.headD h := by
  have hseg := hr.seg
  cases l with
  | nil => exact hseg.1
  | cons x l => exact hseg.1.1

lemma Ring.next_of_append {l₁ l₂ : List α} (hr : Ring L h (l₁ ++ x :: l₂)) : L.next x = l₂.headD h := by
  have hseg := (seg_append.mp hr.seg).2
  cases l₂ with
  | nil => exact hseg.1
  | cons y l₂ => exact hseg.1.1

lemma Ring.next_head (hr : Ring L h (x :: l)) : L.next x = l.headD h :=
  @Ring.next_of_append α L x h [] l hr

lemma Ring.congr {L' : Links α} (hr : Ring L h l)
    (hnext : ∀ x ∈ h :: l, L'.next x = L.next x) (hprev : ∀ x ∈ h :: l, L'.prev x = L.prev x) :
    Ring L' h l := ⟨hr.seg.congr hnext hprev, hr.nodup⟩

lemma Ring.prev_mem (hr : Ring L h l) (hx : x ∈ h :: l) : L.prev x ∈ h :: l := by
  rcases mem_cons.mp hx with rfl | hx
  · exact hr.seg.prev_mem
  · rcases append_of_mem hx with ⟨l₁, l₂, rfl⟩
    have hmem := (seg_append.mp hr.seg).1.prev_mem
    exact mem_append_left _ hmem

lemma Ring.next_mem (hr : Ring L h l) (hx : x ∈ h :: l) : L.next x ∈ h :: l := by
  rcases mem_cons.mp hx with rfl | hx
  · exact hr.seg.next_mem
  · rcases append_of_mem hx with ⟨l₁, l₂, rfl⟩
    rcases mem_cons.mp (seg_append.mp hr.seg).2.next_mem with hmem | hmem
    · rw [hmem]; exact mem_cons_self
    · exact mem_cons_of_mem h (mem_append_right _ (mem_cons_of_mem x hmem))

/-! ## Inserting and removing -/

section Pointers

variable [DecidableEq α]

namespace Links

/-! The two operations leave the links of all nodes but those they are about and their neighbours. -/

variable {L : Links α} {null ev node x : α}

lemma insertBefore_next_of_ne (hev : x ≠ ev) (hprev : x ≠ L.prev node) :
    (L.insertBefore ev node).next x = L.next x := by
  simp only [insertBefore, update_of_ne hprev, update_of_ne hev]

lemma insertBefore_prev_of_ne (hev : x ≠ ev) (hnode : x ≠ node) : (L.insertBefore ev node).prev x = L.prev x := by
  simp only [insertBefore, update_of_ne hnode, update_of_ne hev]

lemma unlink_next_of_ne (hev : x ≠ ev) (hprev : x ≠ L.prev ev) : (L.unlink null ev).next x = L.next x := by
  simp only [unlink, update_of_ne hev, update_of_ne hprev]

lemma unlink_prev_of_ne (hev : x ≠ ev) (hnext : x ≠ L.next ev) : (L.unlink null ev).prev x = L.prev x := by
  simp only [unlink, update_of_ne hev, update_of_ne hnext]

end Links

variable {L : Links α} {ev h a b : α} {l : List α}

lemma Seg.insertBefore (h : Seg L a l b) (hnodup : (a :: l).Nodup) (hb : b ∉ l) (hev : ev ∉ a :: l) (hevb : ev ≠ b) :
    Seg (L.insertBefore ev b) a (l ++ [ev]) b := by
  induction l generalizing a with
  | nil =>
    rcases h with ⟨_, hp⟩
    have hae : ev ≠ a := fun heq => hev (heq ▸ mem_cons_self)
    simp only [nil_append, Seg, Links.insertBefore, hp]
    refine ⟨⟨?_, ?_⟩, ?_, ?_⟩
    · rw [update_self]
    · rw [update_of_ne hevb, update_self]
    · rw [update_of_ne hae, update_self]
    · rw [update_self]
  | cons x l ih =>
    rcases h with ⟨⟨hn, hp⟩, hrest⟩
    rcases nodup_cons.mp hnodup with ⟨ha, hnodup'⟩
    have hmem := hrest.prev_mem
    have hap : a ≠ L.prev b := fun heq => ha (heq ▸ hmem)
    have hae : a ≠ ev := fun heq => hev (heq ▸ mem_cons_self)
    have hxe : x ≠ ev := fun heq => hev (heq ▸ by simp)
    have hxb : x ≠ b := fun heq => hb (heq ▸ mem_cons_self)
    refine ⟨⟨?_, ?_⟩, ih hrest hnodup' ?_ ?_⟩
    · rw [Links.insertBefore_next_of_ne hae hap, hn]
    · rw [Links.insertBefore_prev_of_ne hxe hxb, hp]
    · exact fun hmem => hb (mem_cons_of_mem x hmem)
    · exact fun hmem => hev (mem_cons_of_mem a hmem)

lemma Seg.insertBefore_start (h : Seg L a l b) (ha : a ∉ b :: l)
    (hprev : L.prev a ∉ a :: l) (hev : ev ∉ a :: l) (hevb : ev ≠ b) : Seg (L.insertBefore ev a) a l b := by
  refine h.congr (fun x hx => ?_) fun x hx => ?_
  · exact Links.insertBefore_next_of_ne (ne_of_mem_of_not_mem hx hev) (ne_of_mem_of_not_mem hx hprev)
  · refine Links.insertBefore_prev_of_ne ?_ (ne_of_mem_of_not_mem hx ha)
    rcases mem_cons.mp hx with rfl | hx
    · exact hevb.symm
    · exact ne_of_mem_of_not_mem (mem_cons_of_mem a hx) hev

lemma Seg.unlink_start {null : α} (h : Seg L ev l b) (hp : L.prev ev = a)
    (hnodup : (a :: ev :: l).Nodup) (hb : b ∉ ev :: l) : Seg (L.unlink null ev) a l b := by
  rcases nodup_cons.mp hnodup with ⟨ha, hnodup'⟩
  rcases nodup_cons.mp hnodup' with ⟨hev, hl⟩
  have hae : a ≠ ev := fun heq => ha (heq ▸ mem_cons_self)
  have hbe : b ≠ ev := fun heq => hb (heq ▸ mem_cons_self)
  cases l with
  | nil =>
    refine ⟨?_, ?_⟩
    · simp only [Links.unlink, hp, update_of_ne hae, update_self, h.1]
    · simp only [Links.unlink, hp, h.1, update_of_ne hbe, update_self]
  | cons x l =>
    rcases h with ⟨⟨hn, _⟩, hrest⟩
    have hxe : x ≠ ev := fun heq => hev (heq ▸ mem_cons_self)
    refine ⟨⟨?_, ?_⟩, hrest.congr (fun y hy => ?_) fun y hy => ?_⟩
    · simp only [Links.unlink, hp, update_of_ne hae, update_self, hn]
    · simp only [Links.unlink, hp, hn, update_of_ne hxe, update_self]
    · refine Links.unlink_next_of_ne (ne_of_mem_of_not_mem hy hev) ?_
      rw [hp]
      exact ne_of_mem_of_not_mem (mem_cons_of_mem ev hy) ha
    · rcases mem_cons.mp hy with rfl | hy
      · refine Links.unlink_prev_of_ne hbe ?_
        rw [hn]
        exact fun heq => hb (heq ▸ by simp)
      · refine Links.unlink_prev_of_ne (ne_of_mem_of_not_mem (mem_cons_of_mem x hy) hev) ?_
        rw [hn]
        exact ne_of_mem_of_not_mem hy (nodup_cons.mp hl).1

variable {l₁ l₂ : List α}

lemma Seg.unlink {null : α} (h₁ : Seg L a l₁ ev)
    (h₂ : Seg L ev l₂ b) (hnodup : (a :: (l₁ ++ ev :: l₂)).Nodup) (hb : b ∉ l₁ ++ ev :: l₂) :
    Seg (L.unlink null ev) a (l₁ ++ l₂) b := by
  induction l₁ generalizing a with
  | nil => exact h₂.unlink_start h₁.2 hnodup hb
  | cons y l₁ ih =>
    rcases h₁ with ⟨⟨hn, hp⟩, hrest⟩
    rcases nodup_cons.mp hnodup with ⟨ha, hnodup'⟩
    have hy := (nodup_cons.mp hnodup').1
    have hap : a ≠ L.prev ev := by
      intro heq
      refine ha (heq ▸ ?_)
      exact mem_append_left _ hrest.prev_mem
    have hae : a ≠ ev := fun heq => ha (heq ▸ by simp)
    have hye : y ≠ ev := fun heq => hy (heq ▸ by simp)
    have hyn : y ≠ L.next ev := by
      intro heq
      rcases mem_cons.mp (heq ▸ h₂.next_mem) with rfl | hmem
      · exact hb mem_cons_self
      · exact hy (mem_append_right _ (mem_cons_of_mem ev hmem))
    refine ⟨⟨?_, ?_⟩, ih hrest hnodup' fun hmem => hb (mem_cons_of_mem y hmem)⟩
    · rw [Links.unlink_next_of_ne hae hap, hn]
    · rw [Links.unlink_prev_of_ne hye hyn, hp]

/-- **Insertion** before the first node of `l₂`, or before the sentinel. -/
theorem Ring.insertBefore (hr : Ring L h (l₁ ++ l₂)) (hev : ev ∉ h :: (l₁ ++ l₂)) :
    Ring (L.insertBefore ev (l₂.headD h)) h (l₁ ++ ev :: l₂) := by
  have hevh : ev ≠ h := fun heq => hev (heq ▸ mem_cons_self)
  have hnodup : (h :: (l₁ ++ ev :: l₂)).Nodup := by
    have := hr.nodup
    simp only [nodup_cons, nodup_append, mem_append, mem_cons, not_or]
      at this hev ⊢
    grind
  refine ⟨?_, hnodup⟩
  cases l₂ with
  | nil =>
    rw [append_nil] at hr hev
    exact hr.seg.insertBefore hr.nodup (nodup_cons.mp hr.nodup).1 hev hevh
  | cons n l₂ =>
    rcases seg_append.mp hr.seg with ⟨hleft, hright⟩
    have hparts := hr.nodup
    rw [← cons_append, nodup_append] at hparts
    rcases hparts with ⟨hleftnd, hrightnd, hdisj⟩
    have hnl : n ∉ l₁ := fun hmem =>
      hdisj n (mem_cons_of_mem h hmem) n mem_cons_self rfl
    have hnr : n ∉ h :: l₂ := by
      intro hmem
      rcases mem_cons.mp hmem with heq | hmem
      · exact hdisj h mem_cons_self n mem_cons_self heq.symm
      · exact (nodup_cons.mp hrightnd).1 hmem
    rw [← cons_append, mem_append, not_or] at hev
    have hne : ev ≠ n := fun heq => hev.2 (heq ▸ mem_cons_self)
    have hinsert := hleft.insertBefore hleftnd hnl hev.1 hne
    have hkeep : Seg (L.insertBefore ev n) n l₂ h :=
      hright.insertBefore_start hnr (fun hmem => hdisj _ hleft.prev_mem _ hmem rfl) hev.2 hevh
    have hjoin := seg_append.mpr ⟨hinsert, hkeep⟩
    rw [append_assoc, singleton_append] at hjoin
    exact hjoin

/-- **Removal.** -/
theorem Ring.unlink (hr : Ring L h (l₁ ++ ev :: l₂)) (null : α) : Ring (L.unlink null ev) h (l₁ ++ l₂) := by
  rcases seg_append.mp hr.seg with ⟨hleft, hright⟩
  refine ⟨hleft.unlink hright hr.nodup (nodup_cons.mp hr.nodup).1, ?_⟩
  refine hr.nodup.sublist (List.Sublist.cons_cons h ?_)
  exact List.Sublist.append_left (sublist_cons_self ev l₂) l₁

lemma Ring.unlink_head (hr : Ring L h (ev :: l)) (null : α) : Ring (L.unlink null ev) h l :=
  @Ring.unlink α _ L ev h [] l hr null

/-- Insertion into one ring leaves a disjoint one alone. -/
theorem Ring.insertBefore_of_disjoint {h' node : α} {l' : List α}
    (hr : Ring L h l) (hr' : Ring L h' l') (hnode : node ∈ h' :: l')
    (hdisj : ∀ x ∈ h :: l, x ∉ h' :: l') (hev : ev ∉ h :: l) : Ring (L.insertBefore ev node) h l := by
  refine hr.congr (fun x hx => ?_) fun x hx => ?_
  · have hxp : x ≠ L.prev node := fun heq => hdisj x hx (heq ▸ hr'.prev_mem hnode)
    exact Links.insertBefore_next_of_ne (ne_of_mem_of_not_mem hx hev) hxp
  · have hxn : x ≠ node := fun heq => hdisj x hx (heq ▸ hnode)
    exact Links.insertBefore_prev_of_ne (ne_of_mem_of_not_mem hx hev) hxn

/-- Removal from one ring leaves a disjoint one alone. -/
theorem Ring.unlink_of_disjoint {h' : α} {l' : List α} (null : α)
    (hr : Ring L h l) (hr' : Ring L h' l') (hev : ev ∈ h' :: l')
    (hdisj : ∀ x ∈ h :: l, x ∉ h' :: l') : Ring (L.unlink null ev) h l := by
  have hprev := hr'.prev_mem hev
  have hnext := hr'.next_mem hev
  refine hr.congr (fun x hx => ?_) fun x hx => ?_
  · have hxp : x ≠ L.prev ev := fun heq => hdisj x hx (heq ▸ hprev)
    have hxe : x ≠ ev := fun heq => hdisj x hx (heq ▸ hev)
    exact Links.unlink_next_of_ne hxe hxp
  · have hxn : x ≠ L.next ev := fun heq => hdisj x hx (heq ▸ hnext)
    have hxe : x ≠ ev := fun heq => hdisj x hx (heq ▸ hev)
    exact Links.unlink_prev_of_ne hxe hxn

/-- **Walking the links** of a ring reads its nodes off. -/
theorem Ring.nodes_eq (hr : Ring L h l) {fuel : ℕ} (hfuel : l.length ≤ fuel) : L.nodes h fuel = l := by
  have hwalk : ∀ (l : List α) (a : α) (fuel : ℕ), Seg L a l h → h ∉ l → l.length ≤ fuel →
      L.nodesFrom h fuel (L.next a) = l := by
    intro l
    induction l with
    | nil =>
      intro a fuel hseg _ _
      cases fuel with
      | zero => rfl
      | succ fuel => rw [Links.nodesFrom, if_pos hseg.1]
    | cons x l ih =>
      intro a fuel hseg hh hlen
      cases fuel with
      | zero => cases hlen
      | succ fuel =>
        have hx : x ≠ h := fun heq => hh (heq ▸ mem_cons_self)
        rw [hseg.1.1, Links.nodesFrom, if_neg hx]
        congr 1
        refine ih x fuel hseg.2 (fun hmem => hh (mem_cons_of_mem x hmem)) ?_
        simpa using hlen
  exact hwalk l h fuel hr.seg (nodup_cons.mp hr.nodup).1 hfuel

end Pointers

end Hal
