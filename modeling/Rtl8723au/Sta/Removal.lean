import Rtl8723au.Recv.Pool
import Rtl8723au.Xmit.FramesOwned
import Rtl8723au.Xmit.Scheduler

/-! What becomes of the frames of a station that is freed: `rtw_free_stainfo` and the `rtw_alloc_stainfo`
that reuses its entry, of `core/rtw_sta_mgt.c`, with the queues of both directions. -/
namespace Rtl8723au
open Intrusive
set_option autoImplicit false

/-! ## The entries -/

/-- What the entries of the stations reach into; `reorderTimer` tells which `reordering_ctrl_timer` is
armed. -/
structure StaEntries where
  xmit : XmitPriv
  recv : RecvPool
  reorderTimer : StaId → Tid → Bool

namespace StaEntries

/-- A turn of the loop over `recvreorder_ctrl`. -/
def freeReorderCtrl (psta : StaId) (s : StaEntries) (tid : Tid) : StaEntries :=
  { s with
    recv := s.recv.rtwFreeRecvframeQueue (.pendingRecvframeQueue psta tid)
    reorderTimer := Function.update s.reorderTimer psta (Function.update (s.reorderTimer psta) tid false) }

/-- `rtw_free_stainfo`. -/
def rtwFreeStainfo (s : StaEntries) (psta : StaId) : StaEntries :=
  (List.finRange 16).foldl (freeReorderCtrl psta) { s with xmit := s.xmit.rtwFreeStainfo psta }

/-- `_rtw_init_sta_xmit_priv`, and `sleep_q`: the heads are made empty. -/
def initXmit (s : XmitPriv) (psta : StaId) : XmitPriv :=
  { s with
    queue
      | .sleepQ p => if p = psta then [] else s.queue (.sleepQ p)
      | .staPending n => if n.1 = psta then [] else s.queue (.staPending n)
      | .freeXmitQueue => s.queue .freeXmitQueue
    qcnt := fun n => if n.1 = psta then 0 else s.qcnt n
    staPs := Function.update s.staPs psta {} }

/-- `_rtw_init_sta_recv_priv`, and the queues of `recvreorder_ctrl`. -/
def initRecv (s : RecvPool) (psta : StaId) : RecvPool :=
  { s with
    queue
      | .defragQ p => if p = psta then [] else s.queue (.defragQ p)
      | .pendingRecvframeQueue p tid => if p = psta then [] else s.queue (.pendingRecvframeQueue p tid)
      | q => s.queue q }

/-- `rtw_alloc_stainfo`. -/
def rtwAllocStainfo (s : StaEntries) (hwaddr : MacAddr) : Option StaId × StaEntries :=
  match Rtl8723au.rtwAllocStainfo s.xmit.padapter.stapriv hwaddr with
  | (_, none) => (none, s)
  | (stapriv, some psta) =>
    let xmit := { s.xmit with padapter := { s.xmit.padapter with stapriv := stapriv } }
    (some psta, ⟨initXmit xmit psta, initRecv s.recv psta, Function.update s.reorderTimer psta fun _ => false⟩)

/-- Entries are allocated until that of `p` is. -/
inductive Reused (p : StaId) : StaEntries → StaEntries → Prop where
  | now {s t : StaEntries} (hwaddr : MacAddr) (h : s.rtwAllocStainfo hwaddr = (some p, t)) : Reused p s t
  | later {s s' t : StaEntries} (hwaddr : MacAddr) (q : StaId) (h : s.rtwAllocStainfo hwaddr = (some q, s'))
      (hq : q ≠ p) (hrest : Reused p s' t) : Reused p s t

/-! ## The frames of an entry -/

def reorderQueues (p : StaId) : List QueueId := (List.finRange 16).map (.pendingRecvframeQueue p)

def xmitQueues (p : StaId) : List TxQueue :=
  [.sleepQ p, .staPending (p, .vo), .staPending (p, .vi), .staPending (p, .be), .staPending (p, .bk)]

/-- The receive frames: fragments, and frames to be put in order. -/
def recvFrames (s : StaEntries) (p : StaId) : List FrameId :=
  s.recv.queue (.defragQ p) ++ (reorderQueues p).flatMap s.recv.queue

def xmitFrames (s : StaEntries) (p : StaId) : List XmitFrameId := (xmitQueues p).flatMap s.xmit.queue

/-- **Nothing of the station is left behind.** -/
structure Returned (p : StaId) (s t : StaEntries) : Prop where
  recv : ∀ f ∈ s.recvFrames p, f ∈ t.recv.queue .freeRecvQueue
  xmit : ∀ f ∈ s.xmitFrames p, f ∈ t.xmit.queue .freeXmitQueue
  recvCnt : t.recv.freeRecvframeCnt = uint (s.recv.freeRecvframeCnt + (s.recvFrames p).length)
  xmitCnt : t.xmit.freeXmitframeCnt = uint (s.xmit.freeXmitframeCnt + (s.xmitFrames p).length)
  timers : ∀ tid, t.reorderTimer p tid = false
  recvEmpty : t.recvFrames p = []
  xmitEmpty : t.xmitFrames p = []

end StaEntries

/-! ## Freeing queues -/

section Counted
variable {Q α : Type} [DecidableEq Q] [DecidableEq α]

/-- A queue is drained to `q₀`, and the counter of `q₀` keeps up. -/
def drainCounted (q₀ : Q) (x : (Q → List α) × ℕ) (q : Q) : (Q → List α) × ℕ :=
  (drain x.1 q₀ q, uint (x.2 + (x.1 q).length))

theorem drainCounted_all {q₀ : Q} {qs : List Q} (x : (Q → List α) × ℕ) (h : Once x.1) (hcnt : x.2 < 2 ^ 32)
    (hnodup : qs.Nodup) (hqs : q₀ ∉ qs) : Drained x.1 (qs.foldl (drainCounted q₀) x).1 q₀ qs ∧
      (qs.foldl (drainCounted q₀) x).2 = uint (x.2 + (qs.flatMap x.1).length) := by
  induction qs generalizing x with
  | nil => exact ⟨.refl h, (uint_natCast _ hcnt).symm⟩
  | cons q rest ih =>
    rw [List.mem_cons, not_or] at hqs
    rw [List.nodup_cons] at hnodup
    have hfirst := h.drain (Ne.symm hqs.1)
    obtain ⟨hrest, hcount⟩ := ih (drainCounted q₀ x q) hfirst.once
      (uint_lt (x.2 + (x.1 q).length)) hnodup.2 hqs.2
    have hsame : rest.flatMap (drainCounted q₀ x q).1 = rest.flatMap x.1 := by
      refine List.flatMap_congr fun q' hq' => hfirst.other q' (fun he => hqs.2 (he ▸ hq')) fun hin => ?_
      exact hnodup.1 (List.mem_singleton.mp hin ▸ hq')
    refine ⟨?_, ?_⟩
    · have hdisjoint : [q].Disjoint rest := fun q' hq' hin => hnodup.1 (List.mem_singleton.mp hq' ▸ hin)
      exact hfirst.trans hrest hdisjoint (fun hin => hqs.1 (List.mem_singleton.mp hin)) hqs.2
    · rw [List.foldl_cons, hcount, hsame]
      show uint (uint (x.2 + (x.1 q).length) + _) = _
      rw [uint_add, List.flatMap_cons, List.length_append]
      push_cast
      congr 1
      ring

theorem drained_of_counted {q₀ : Q} {qs : List Q} {ls ls' : Q → List α} {cnt cnt' : ℕ} (h : Once ls) (hcnt : cnt < 2 ^ 32)
    (hnodup : qs.Nodup) (hqs : q₀ ∉ qs) (hall : (ls', cnt') = qs.foldl (drainCounted q₀) (ls, cnt)) :
    Drained ls ls' q₀ qs ∧ cnt' = uint (cnt + (qs.flatMap ls).length) := by
  obtain ⟨hdrained, hcount⟩ := drainCounted_all (ls, cnt) h hcnt hnodup hqs
  rw [← hall] at hdrained hcount
  exact ⟨hdrained, hcount⟩

end Counted

section Freed
variable {p : StaId}

theorem freeReorder_counted (tids : List Tid) (s : StaEntries) (hcnt : s.recv.freeRecvframeCnt < 2 ^ 32) :
    ((tids.foldl (StaEntries.freeReorderCtrl p) s).recv.queue,
      (tids.foldl (StaEntries.freeReorderCtrl p) s).recv.freeRecvframeCnt) =
    (tids.map (.pendingRecvframeQueue p)).foldl (drainCounted .freeRecvQueue) (s.recv.queue, s.recv.freeRecvframeCnt) := by
  induction tids generalizing s with
  | nil => rfl
  | cons tid rest ih =>
    have hqueue := RecvPool.freeLoop_queue (s.recv.queue (.pendingRecvframeQueue p tid)) s.recv
    have hcount := RecvPool.freeLoop_cnt (s.recv.queue (.pendingRecvframeQueue p tid)) s.recv hcnt
    have hturn : ((s.freeReorderCtrl p tid).recv.queue, (s.freeReorderCtrl p tid).recv.freeRecvframeCnt) =
        drainCounted .freeRecvQueue (s.recv.queue, s.recv.freeRecvframeCnt) (.pendingRecvframeQueue p tid) :=
      Prod.ext hqueue hcount
    have hlt : (s.freeReorderCtrl p tid).recv.freeRecvframeCnt < 2 ^ 32 := by
      rw [(Prod.mk.inj hturn).2]
      exact uint_lt _
    rw [List.foldl_cons, ih _ hlt, hturn]
    rfl

end Freed

namespace StaEntries

/-! ## Freeing an entry -/

/-- A frame has one `list`, and the counters are `uint`s. -/
structure Linked (s : StaEntries) : Prop where
  xmitOnce : Once s.xmit.queue
  recvOnce : Once s.recv.queue
  xmitCnt : s.xmit.freeXmitframeCnt < 2 ^ 32
  recvCnt : s.recv.freeRecvframeCnt < 2 ^ 32

section Free
variable {s t : StaEntries} {p : StaId}

theorem reorderQueues_nodup (p : StaId) : (reorderQueues p).Nodup ∧ QueueId.freeRecvQueue ∉ reorderQueues p := by
  refine ⟨(List.nodup_finRange 16).map fun tid tid' h => (QueueId.pendingRecvframeQueue.inj h).2, fun h => ?_⟩
  obtain ⟨tid, -, htid⟩ := List.mem_map.mp h
  exact QueueId.noConfusion htid

theorem rtwFreeStainfo_recv (h : s.Linked) : Drained s.recv.queue (s.rtwFreeStainfo p).recv.queue .freeRecvQueue
      (reorderQueues p) ∧
    (s.rtwFreeStainfo p).recv.freeRecvframeCnt =
      uint (s.recv.freeRecvframeCnt + ((reorderQueues p).flatMap s.recv.queue).length) :=
  drained_of_counted h.recvOnce h.recvCnt (reorderQueues_nodup p).1 (reorderQueues_nodup p).2
    (freeReorder_counted (List.finRange 16) { s with xmit := s.xmit.rtwFreeStainfo p } h.recvCnt)

/-! ## Reusing it -/

/-- What an allocation leaves to the entries. -/
structure Allocated (q : StaId) (s t : StaEntries) : Prop where
  xmitFree : t.xmit.queue .freeXmitQueue = s.xmit.queue .freeXmitQueue
  recvFree : t.recv.queue .freeRecvQueue = s.recv.queue .freeRecvQueue
  xmitCnt : t.xmit.freeXmitframeCnt = s.xmit.freeXmitframeCnt
  recvCnt : t.recv.freeRecvframeCnt = s.recv.freeRecvframeCnt
  xmitEmpty : t.xmitFrames q = []
  recvEmpty : t.recvFrames q = []
  timers : ∀ tid, t.reorderTimer q tid = false

theorem rtwAllocStainfo_allocated {hwaddr : MacAddr} {q : StaId} (h : s.rtwAllocStainfo hwaddr = (some q, t)) :
    Allocated q s t := by
  unfold rtwAllocStainfo at h
  split at h
  · exact absurd (Prod.mk.inj h).1 (Option.some_ne_none q).symm
  · rename_i stapriv psta _
    dsimp only at h
    obtain ⟨hq, rfl⟩ := Prod.mk.inj h
    obtain rfl := Option.some.inj hq
    refine ⟨rfl, rfl, rfl, rfl, ?_, ?_, fun tid => ?_⟩
    · refine List.flatMap_eq_nil_iff.mpr fun n hn => ?_
      simp only [xmitQueues, List.mem_cons, List.not_mem_nil, or_false] at hn
      rcases hn with rfl | rfl | rfl | rfl | rfl <;> exact if_pos rfl
    · refine List.append_eq_nil_iff.mpr ⟨if_pos rfl, List.flatMap_eq_nil_iff.mpr fun n hn => ?_⟩
      obtain ⟨tid, -, rfl⟩ := List.mem_map.mp hn
      exact if_pos rfl
    · show Function.update s.reorderTimer psta (fun _ => false) psta tid = false
      rw [Function.update_self]

theorem Reused.allocated (h : Reused p s t) : Allocated p s t := by
  induction h with
  | now hwaddr h => exact rtwAllocStainfo_allocated h
  | later hwaddr q h hq hrest ih =>
    have hfirst := rtwAllocStainfo_allocated h
    exact { ih with
      xmitFree := ih.xmitFree.trans hfirst.xmitFree
      recvFree := ih.recvFree.trans hfirst.recvFree
      xmitCnt := ih.xmitCnt.trans hfirst.xmitCnt
      recvCnt := ih.recvCnt.trans hfirst.recvCnt }

theorem Returned.defragQ (h : s.Linked) (hreused : Reused p (s.rtwFreeStainfo p) t) (hreturned : Returned p s t) :
    s.recv.queue (.defragQ p) = [] := by
  have hrecvFree : t.recv.queue .freeRecvQueue =
      s.recv.queue .freeRecvQueue ++ (reorderQueues p).flatMap s.recv.queue :=
    hreused.allocated.recvFree.trans (rtwFreeStainfo_recv h).1.target
  rw [List.eq_nil_iff_forall_not_mem]
  intro f hf
  have hback := hreturned.recv f (List.mem_append_left _ hf)
  rw [hrecvFree, List.mem_append] at hback
  rcases hback with hfree | hpending
  · exact QueueId.noConfusion (h.recvOnce.one f _ _ hfree hf)
  · obtain ⟨q, hq, hmem⟩ := List.mem_flatMap.mp hpending
    obtain ⟨tid, -, rfl⟩ := List.mem_map.mp hq
    exact QueueId.noConfusion (h.recvOnce.one f _ _ hmem hf)

end Free

end StaEntries

end Rtl8723au
