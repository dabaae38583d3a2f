import Rtl8723au.Xmit.Conservation

/-! The two levels of the transmit scheduler: the frames of each `tx_servq`, the `tx_servq`s linked into
each `hwxmits[ac].sta_queue`, and the two counters. A queue with frames is linked where the dequeue looks
for it; a queue in `N` need not be. -/
namespace Rtl8723au
open Intrusive
set_option autoImplicit false

/-! ## The scheduler -/

structure TxSched where
  queue : TxQueue → List XmitFrameId
  staQueue : Ac → List TxServq
  qcnt : TxServq → ℤ
  accnt : Ac → ℤ
  priority : XmitFrameId → ℕ

namespace TxSched

structure Sound (v : TxSched) (N : Set TxServq) : Prop where
  once : Once v.queue
  nodes : Once v.staQueue
  nodeAc : ∀ ac, ∀ n ∈ v.staQueue ac, n.2 = ac
  linked : ∀ n ∉ N, (n ∈ v.staQueue n.2 ↔ v.queue (.staPending n) ≠ [])
  qcnt : ∀ n, v.qcnt n = (v.queue (.staPending n)).length
  accnt : ∀ ac, v.accnt ac = ∑ psta : StaId, v.qcnt (psta, ac)
  priority : ∀ n, ∀ f ∈ v.queue (.staPending n), acOf (v.priority f) = n.2

/-- The frame waits for no tasklet. -/
def Outside (v : TxSched) (f : XmitFrameId) : Prop := ∀ n, f ∉ v.queue (.staPending n)

section Ops
variable (v : TxSched)

def count (n : TxServq) (ac : Ac) (k : ℤ) : TxSched :=
  { v with
    qcnt := Function.update v.qcnt n (v.qcnt n + k)
    accnt := Function.update v.accnt ac (v.accnt ac + k) }

def unlink (n : TxServq) : TxSched := { v with staQueue := delInit v.staQueue n }

def link (n : TxServq) : TxSched :=
  if ∀ ac, n ∉ v.staQueue ac then { v with staQueue := addTail v.staQueue n.2 n } else v

def withQueue (queue : TxQueue → List XmitFrameId) : TxSched := { v with queue := queue }

end Ops

theorem sum_count (qcnt : TxServq → ℤ) (n : TxServq) (k : ℤ) (ac : Ac) :
    ∑ psta : StaId, Function.update qcnt n (qcnt n + k) (psta, ac) =
      (∑ psta : StaId, qcnt (psta, ac)) + if ac = n.2 then k else 0 := by
  have hpoint : ∀ psta : StaId, Function.update qcnt n (qcnt n + k) (psta, ac) =
      qcnt (psta, ac) + if psta = n.1 then (if ac = n.2 then k else 0) else 0 := by
    intro psta
    by_cases hn : (psta, ac) = n
    · rw [hn, Function.update_self, ← hn, if_pos rfl, if_pos rfl]
    · rw [Function.update_of_ne hn]
      split
      · rename_i hp
        rw [if_neg fun hac => hn (Prod.ext hp hac), add_zero]
      · rw [add_zero]
  rw [Finset.sum_congr rfl fun psta _ => hpoint psta, Finset.sum_add_distrib, Finset.sum_ite_eq' Finset.univ n.1,
    if_pos (Finset.mem_univ _)]

namespace Sound
variable {v : TxSched} {N : Set TxServq} {f : XmitFrameId} {n : TxServq}

theorem mono {M : Set TxServq} (h : v.Sound N) (hNM : N ⊆ M) : v.Sound M :=
  { h with linked := fun n hn => h.linked n fun hN => hn (hNM hN) }

theorem withQueue (h : v.Sound N) {queue : TxQueue → List XmitFrameId} (honce : Once queue)
    (hsame : ∀ n, queue (.staPending n) = v.queue (.staPending n)) : (v.withQueue queue).Sound N :=
  { h with
    once := honce
    linked := by
      intro n hn
      show n ∈ v.staQueue n.2 ↔ queue (.staPending n) ≠ []
      rw [hsame n]
      exact h.linked n hn
    qcnt := by
      intro n
      show v.qcnt n = (queue (.staPending n)).length
      rw [hsame n]
      exact h.qcnt n
    priority := fun n f hf => h.priority n f (hsame n ▸ hf) }

theorem take (h : v.Sound N) (hf : v.Outside f) : (v.withQueue (delInit v.queue f)).Sound N :=
  h.withQueue (h.once.delInit f) fun n => delInit_of_not_mem (hf n)

theorem move {q : TxQueue} (h : v.Sound N) (hf : v.Outside f) (hq : ∀ n, q ≠ .staPending n) :
    (v.withQueue (moveTail v.queue q f)).Sound N := by
  refine h.withQueue (h.once.moveTail q f) fun n => ?_
  rw [moveTail, addTail_of_ne _ _ (hq n).symm, delInit_of_not_mem (hf n)]

theorem setPriority (h : v.Sound N) (hf : v.Outside f) (priority : XmitFrameId → ℕ)
    (hsame : ∀ g ≠ f, priority g = v.priority g) : ({ v with priority := priority } : TxSched).Sound N :=
  { h with
    priority := by
      intro n g hg
      have hne : g ≠ f := fun hgf => hf n (hgf ▸ hg)
      show acOf (priority g) = n.2
      rw [hsame g hne]
      exact h.priority n g hg }

theorem enqueue (h : v.Sound N) (hf : Loose v.queue f) (hprio : acOf (v.priority f) = n.2) :
    (((v.link n).withQueue (addTail v.queue (.staPending n) f)).count n n.2 1).Sound N := by
  have hstay : ∀ m ≠ n, addTail v.queue (.staPending n) f (.staPending m) = v.queue (.staPending m) :=
    fun m hm => addTail_of_ne _ _ fun he => hm (TxQueue.staPending.inj he)
  have hlink : ∀ m ac, m ∈ (v.link n).staQueue ac ↔ m ∈ v.staQueue ac ∨ m = n ∧ ac = n.2 := by
    intro m ac
    unfold link
    split
    · exact mem_addTail
    · rename_i hin
      refine ⟨Or.inl, fun hm => hm.elim id ?_⟩
      rintro ⟨rfl, rfl⟩
      obtain ⟨ac', hac'⟩ := not_forall_not.mp hin
      exact h.nodeAc ac' m hac' ▸ hac'
  exact {
    once := h.once.addTail hf
    nodes := by
      show Once (v.link n).staQueue
      unfold link
      split
      · rename_i hloose
        exact h.nodes.addTail hloose
      · exact h.nodes
    nodeAc := by
      intro ac m hm
      rcases (hlink m ac).mp hm with hm | ⟨rfl, rfl⟩
      · exact h.nodeAc ac m hm
      · rfl
    linked := by
      intro m hm
      show m ∈ (v.link n).staQueue m.2 ↔ addTail v.queue (.staPending n) f (.staPending m) ≠ []
      rw [hlink]
      by_cases hmn : m = n
      · subst hmn
        rw [addTail_self]
        exact iff_of_true (Or.inr ⟨rfl, rfl⟩) (by simp)
      · rw [hstay m hmn, ← h.linked m hm]
        exact or_iff_left fun hr => hmn hr.1
    qcnt := by
      intro m
      show Function.update (v.link n).qcnt n ((v.link n).qcnt n + 1) m =
        (addTail v.queue (.staPending n) f (.staPending m)).length
      have hqcnt : (v.link n).qcnt = v.qcnt := by
        unfold link
        split <;> rfl
      rw [hqcnt]
      by_cases hmn : m = n
      · subst hmn
        rw [Function.update_self, addTail_self, List.length_append, h.qcnt m]
        rfl
      · rw [Function.update_of_ne hmn, hstay m hmn, h.qcnt m]
    accnt := by
      intro ac
      have hcounts : (v.link n).qcnt = v.qcnt ∧ (v.link n).accnt = v.accnt := by
        unfold link
        split <;> exact ⟨rfl, rfl⟩
      show Function.update (v.link n).accnt n.2 ((v.link n).accnt n.2 + 1) ac =
        ∑ psta : StaId, Function.update (v.link n).qcnt n ((v.link n).qcnt n + 1) (psta, ac)
      rw [hcounts.1, hcounts.2, sum_count, ← h.accnt]
      by_cases hac : ac = n.2
      · subst hac
        rw [Function.update_self, if_pos rfl]
      · rw [Function.update_of_ne hac, if_neg hac, add_zero]
    priority := by
      intro m g hg
      have hlinkprio : (v.link n).priority = v.priority := by
        unfold link
        split <;> rfl
      show acOf ((v.link n).priority g) = m.2
      rw [hlinkprio]
      rcases mem_addTail.mp hg with hg | ⟨rfl, hm⟩
      · exact h.priority m g hg
      · rw [hprio, TxQueue.staPending.inj hm] }

theorem leave (h : v.Sound N) (hf : f ∈ v.queue (.staPending n)) {queue : TxQueue → List XmitFrameId}
    (honce : Once queue) (hqueue : ∀ m, queue (.staPending m) = delInit v.queue f (.staPending m)) :
    ((v.withQueue queue).count n n.2 (-1)).Sound (insert n N) := by
  have hstay : ∀ m ≠ n, queue (.staPending m) = v.queue (.staPending m) := fun m hm =>
    (hqueue m).trans (h.once.delInit_other hf fun he => hm (TxQueue.staPending.inj he))
  exact { h with
    once := honce
    linked := by
      intro m hm
      show m ∈ v.staQueue m.2 ↔ queue (.staPending m) ≠ []
      rw [hstay m fun hmn => hm (Or.inl hmn)]
      exact h.linked m fun hN => hm (Or.inr hN)
    qcnt := by
      intro m
      show Function.update v.qcnt n (v.qcnt n + -1) m = (queue (.staPending m)).length
      by_cases hmn : m = n
      · subst hmn
        have hlen := length_delInit hf
        rw [Function.update_self, hqueue, h.qcnt m]
        omega
      · rw [Function.update_of_ne hmn, hstay m hmn, h.qcnt m]
    accnt := by
      intro ac
      show Function.update v.accnt n.2 (v.accnt n.2 + -1) ac =
        ∑ psta : StaId, Function.update v.qcnt n (v.qcnt n + -1) (psta, ac)
      rw [sum_count, ← h.accnt]
      by_cases hac : ac = n.2
      · subst hac
        rw [Function.update_self, if_pos rfl]
      · rw [Function.update_of_ne hac, if_neg hac, add_zero]
    priority := by
      intro m g hg
      have hg' : g ∈ queue (.staPending m) := hg
      rw [hqueue] at hg'
      exact h.priority m g (mem_of_delInit hg') }

theorem relink (h : v.Sound (insert n N)) (hn : n ∈ v.staQueue n.2 ↔ v.queue (.staPending n) ≠ []) :
    v.Sound N :=
  { h with
    linked := by
      intro m hm
      by_cases hmn : m = n
      · exact hmn ▸ hn
      · exact h.linked m fun hmem => hmem.elim hmn hm }

theorem unlink (h : v.Sound (insert n N)) (hempty : v.queue (.staPending n) = []) : (v.unlink n).Sound N := by
  have hunlinked : (v.unlink n).Sound (insert n N) := { h with
    nodes := h.nodes.delInit n
    nodeAc := fun ac m hm => h.nodeAc ac m (mem_of_delInit hm)
    linked := by
      intro m hm
      have hne : m ≠ n := fun hmn => hm (Or.inl hmn)
      exact (mem_delInit_of_ne hne).trans (h.linked m hm) }
  refine hunlinked.relink (iff_of_false ?_ fun hne => hne hempty)
  exact h.nodes.loose_delInit n _

/-- A queue is emptied at once, and its share taken off the counter. -/
theorem drain (h : v.Sound N) {queue : TxQueue → List XmitFrameId} (honce : Once queue)
    (hempty : queue (.staPending n) = []) (hstay : ∀ m ≠ n, queue (.staPending m) = v.queue (.staPending m)) :
    (((v.withQueue queue).unlink n).count n n.2 (-v.qcnt n)).Sound N := by
  exact { h with
    once := honce
    nodes := h.nodes.delInit n
    nodeAc := fun ac m hm => h.nodeAc ac m (mem_of_delInit hm)
    linked := by
      intro m hm
      show m ∈ delInit v.staQueue n m.2 ↔ queue (.staPending m) ≠ []
      by_cases hmn : m = n
      · subst hmn
        exact iff_of_false (h.nodes.loose_delInit m _) fun hne => hne hempty
      · rw [hstay m hmn, mem_delInit_of_ne hmn]
        exact h.linked m hm
    qcnt := by
      intro m
      show Function.update v.qcnt n (v.qcnt n + -v.qcnt n) m = (queue (.staPending m)).length
      by_cases hmn : m = n
      · subst hmn
        rw [Function.update_self, hempty, add_neg_cancel]
        rfl
      · rw [Function.update_of_ne hmn, hstay m hmn, h.qcnt m]
    accnt := by
      intro ac
      show Function.update v.accnt n.2 (v.accnt n.2 + -v.qcnt n) ac =
        ∑ psta : StaId, Function.update v.qcnt n (v.qcnt n + -v.qcnt n) (psta, ac)
      rw [sum_count, ← h.accnt]
      by_cases hac : ac = n.2
      · subst hac
        rw [Function.update_self, if_pos rfl]
      · rw [Function.update_of_ne hac, if_neg hac, add_zero]
    priority := by
      intro m g (hg : g ∈ queue (.staPending m))
      by_cases hmn : m = n
      · rw [hmn, hempty] at hg
        exact absurd hg List.not_mem_nil
      · exact h.priority m g (hstay m hmn ▸ hg) }

theorem outside (h : v.Sound N) {q : TxQueue} (hf : f ∈ v.queue q) (hq : ∀ n, q ≠ .staPending n) :
    v.Outside f := fun n hn => hq n (h.once.one f q (.staPending n) hf hn)

end Sound

end TxSched

/-! ## What the functions do to it -/

namespace XmitPriv

def sched (s : XmitPriv) : TxSched where
  queue := s.queue
  staQueue := s.staQueue
  qcnt := s.qcnt
  accnt := s.accnt
  priority := fun f => (s.frames f).attrib.priority

section Sched
variable (s : XmitPriv) {f : XmitFrameId} {N : Set TxServq}

theorem sched_setFrame (f : XmitFrameId) (frame : TxFrame)
    (h : frame.attrib.priority = (s.frames f).attrib.priority) : (s.setFrame f frame).sched = s.sched := by
  have hprio : (fun g => ((s.setFrame f frame).frames g).attrib.priority) =
      fun g => (s.frames g).attrib.priority := by
    funext g
    show (Function.update s.frames f frame g).attrib.priority = _
    by_cases hg : g = f
    · subst hg
      rw [Function.update_self, h]
    · rw [Function.update_of_ne hg]
  unfold sched
  rw [hprio]
  rfl

theorem sched_txPendingAdd (n : TxServq) : (s.txPendingAdd n).sched = s.sched.link n := by
  unfold txPendingAdd TxSched.link
  split
  · rename_i h
    exact (if_pos h).symm
  · rename_i h
    exact (if_neg h).symm

theorem rtwFreeXmitframe_sched (f : XmitFrameId) :
    (s.rtwFreeXmitframe f).sched = s.sched.withQueue (moveTail s.queue .freeXmitQueue f) := by
  have hset := s.sched_setFrame f { s.frames f with pkt := none } rfl
  have hprio := congrArg TxSched.priority hset
  unfold rtwFreeXmitframe TxSched.withQueue
  unfold sched at hprio ⊢
  dsimp only [osPktComplete, listAdd, listDel] at hprio ⊢
  rw [hprio]
  rfl

theorem rtwFreeXmitframe_sound (hs : s.sched.Sound N) (hf : s.sched.Outside f) :
    (s.rtwFreeXmitframe f).sched.Sound N := by
  rw [rtwFreeXmitframe_sched]
  exact hs.move hf fun _ => TxQueue.noConfusion

theorem rtwXmitClassifier_sound (hs : s.sched.Sound N) (hf : Loose s.queue f) :
    (s.rtwXmitClassifier f).2.sched.Sound N := by
  unfold rtwXmitClassifier
  dsimp only
  cases xmitSta s.padapter (s.frames f).attrib.toPktAttrib with
  | none => exact hs
  | some psta =>
    have hjoined := hs.enqueue (n := (psta, acOf (s.frames f).attrib.priority)) hf rfl
    rw [← s.sched_txPendingAdd] at hjoined
    have hqueue : (s.txPendingAdd (psta, acOf (s.frames f).attrib.priority)).queue = s.queue := by
      unfold txPendingAdd
      split <;> rfl
    dsimp only
    unfold listAdd
    rw [hqueue]
    exact hjoined

theorem rtwXmitClassifier_false (h : (s.rtwXmitClassifier f).1 = false) : (s.rtwXmitClassifier f).2 = s := by
  rcases s.rtwXmitClassifier_cases f with hcase | ⟨n, s', hcase, -⟩
  · rw [hcase]
  · rw [hcase] at h
    exact Bool.noConfusion h

theorem rtwHalXmitframeEnqueue_sound (hs : s.sched.Sound N) (hf : Loose s.queue f) :
    (s.rtwHalXmitframeEnqueue f).sched.Sound N := by
  have hsound := s.rtwXmitClassifier_sound hs hf
  have hfalse := s.rtwXmitClassifier_false (f := f)
  unfold rtwHalXmitframeEnqueue
  generalize s.rtwXmitClassifier f = r at hsound hfalse ⊢
  obtain ⟨taken, t⟩ := r
  cases taken with
  | true => exact hsound
  | false =>
    have ht : t = s := hfalse rfl
    rw [ht]
    exact s.rtwFreeXmitframe_sound hs fun _ => hf _

theorem deliver_sound (a : TxAttrib) (ha : a.priority = (s.frames f).attrib.priority)
    (hs : s.sched.Sound N) (hf : Loose s.queue f) : (s.deliver f a).sched.Sound N := by
  have hsched : (s.setAttrib f { a with triggered := true }).sched = s.sched := s.sched_setFrame f _ ha
  exact rtwHalXmitframeEnqueue_sound _ (hsched ▸ hs) hf

/-- A frame that is taken off a `sleep_q`, counted off, and handed on. -/
theorem delivered_sound {t : XmitPriv} (a : TxAttrib) (hs : s.sched.Sound N) (hf : s.sched.Outside f)
    (ht : t.sched = (s.listDel f).sched) (ha : a.priority = (s.frames f).attrib.priority) :
    (t.deliver f a).sched.Sound N := by
  have htaken : t.sched.Sound N := ht ▸ hs.take hf
  have hqueue : t.queue = delInit s.queue f := congrArg TxSched.queue ht
  have hprio : (t.frames f).attrib.priority = (s.frames f).attrib.priority :=
    congrFun (congrArg TxSched.priority ht) f
  exact t.deliver_sound a (ha.trans hprio.symm) htaken (hqueue ▸ hs.once.loose_delInit f)

end Sched

end XmitPriv

end Rtl8723au
