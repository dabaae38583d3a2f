import Rtl8723au.Xmit.Conservation
import Rtl8723au.Xmit.Dump

/-! Runs of the transmit path: packets that come in, the tasklet, transfers that end, stations that sleep,
poll, wake and leave. -/
namespace Rtl8723au
open Intrusive
set_option autoImplicit false

/-! ## Buffers -/

namespace TxPool.Conserved
variable {p : TxPool} {L : Set XmitFrameId} {total : SkBuff → ℕ} {b : XmitBufId}

theorem takeBuf {rest : List XmitBufId} (h : p.Conserved L ∅ total) (hhead : p.freeBufs = b :: rest) :
    ({ p with freeBufs := rest } : TxPool).Conserved L {b} total := by
  have hnodup := h.bufsNodup
  rw [hhead, List.nodup_cons] at hnodup
  have hsub : ∀ c ∈ rest, c ∈ p.freeBufs := fun c hc => hhead ▸ List.mem_cons_of_mem b hc
  exact { h with
    bufsNodup := hnodup.2
    bufsPlaced := by
      intro c
      rcases h.bufsPlaced c with hc | hc | hc
      · exact absurd hc (Set.notMem_empty c)
      · rw [hhead, List.mem_cons] at hc
        exact hc.imp_right Or.inl
      · exact Or.inr (Or.inr hc)
    bufsApart := fun c hc => h.bufsApart c (hsub c hc)
    bufsHeld := by
      intro c hc
      rw [Set.mem_singleton_iff] at hc
      subst hc
      exact ⟨hnodup.1, h.bufsApart c (hhead ▸ List.mem_cons_self)⟩ }

theorem putBuf (h : p.Conserved L {b} total) :
    ({ p with freeBufs := p.freeBufs.erase b ++ [b] } : TxPool).Conserved L ∅ total := by
  have hb := h.bufsHeld b rfl
  rw [List.erase_of_not_mem hb.1]
  exact { h with
    bufsNodup := by
      refine h.bufsNodup.append (List.nodup_singleton b) ?_
      intro c hc hcb
      rw [List.mem_singleton] at hcb
      exact hb.1 (hcb ▸ hc)
    bufsPlaced := by
      intro c
      rcases h.bufsPlaced c with hc | hc | hc
      · exact Or.inr (Or.inl (List.mem_append_right _ (List.mem_singleton.mpr hc)))
      · exact Or.inr (Or.inl (List.mem_append_left _ hc))
      · exact Or.inr (Or.inr hc)
    bufsApart := by
      intro c hc
      rcases List.mem_append.mp hc with hc | hc
      · exact h.bufsApart c hc
      · rw [List.mem_singleton] at hc
        exact hc ▸ hb.2
    bufsHeld := fun c hc => absurd hc (Set.notMem_empty c) }

theorem handOver (h : p.Conserved L {b} total) (nrFrags : ℕ) (hfrags : 0 < nrFrags) :
    ({ p with writePort := p.writePort ++ List.replicate nrFrags b } : TxPool).Conserved L ∅ total := by
  have hb := h.bufsHeld b rfl
  have hmem : ∀ c, c ∈ p.writePort ++ List.replicate nrFrags b ↔ c ∈ p.writePort ∨ c = b := by
    intro c
    rw [List.mem_append, List.mem_replicate]
    exact or_congr_right (and_iff_right hfrags.ne')
  exact { h with
    bufsPlaced := by
      intro c
      rcases h.bufsPlaced c with hc | hc | hc
      · exact Or.inr (Or.inr ((hmem c).mpr (Or.inr hc)))
      · exact Or.inr (Or.inl hc)
      · exact Or.inr (Or.inr ((hmem c).mpr (Or.inl hc)))
    bufsApart := by
      intro c hc hport
      rcases (hmem c).mp hport with hport | hcb
      · exact h.bufsApart c hc hport
      · exact hb.1 (hcb ▸ hc)
    bufsHeld := fun c hc => absurd hc (Set.notMem_empty c) }

theorem transferDone (h : p.Conserved L ∅ total) (hb : b ∈ p.writePort) :
    ({ p with writePort := p.writePort.filter (· != b) } : TxPool).Conserved L {b} total := by
  have hmem : ∀ c, c ∈ p.writePort.filter (· != b) ↔ c ∈ p.writePort ∧ c ≠ b := by
    intro c
    rw [List.mem_filter, bne_iff_ne]
  exact { h with
    bufsPlaced := by
      intro c
      by_cases hcb : c = b
      · exact Or.inl hcb
      · rcases h.bufsPlaced c with hc | hc | hc
        · exact absurd hc (Set.notMem_empty c)
        · exact Or.inr (Or.inl hc)
        · exact Or.inr (Or.inr ((hmem c).mpr ⟨hc, hcb⟩))
    bufsApart := fun c hc hport => h.bufsApart c hc ((hmem c).mp hport).1
    bufsHeld := by
      intro c hc
      rw [Set.mem_singleton_iff] at hc
      subst hc
      exact ⟨fun hfree => h.bufsApart c hfree hb, fun hport => ((hmem c).mp hport).2 rfl⟩ }

theorem notFree {B : Set XmitBufId} {f : XmitFrameId} (h : p.Conserved {f} B total) :
    f ∉ p.queue .freeXmitQueue := h.loose f rfl _

end TxPool.Conserved

namespace XmitPriv

/-! ## The tasklet -/

section Tasklet
variable {B : Set XmitBufId} {total : SkBuff → ℕ} {s : XmitPriv} {f : XmitFrameId} {b : XmitBufId}

theorem Handled.done {s' : XmitPriv} (h : Handled f s s') (hc : s.pool.Conserved {f} B total) :
    s'.pool.Conserved ∅ B total := by
  have hkept := h.keeps hc hc.notFree
  rw [Set.sdiff_self] at hkept
  exact hkept

theorem rtwDumpXframe_conserved (hc : s.pool.Conserved {f} {b} total) (nrFrags : ℕ) (hfrags : 0 < nrFrags) :
    (s.rtwDumpXframe f b nrFrags).pool.Conserved ∅ ∅ total :=
  (rtwFreeXmitframe_handled _ f).done (s := { s with writePort := s.writePort ++ List.replicate nrFrags b })
    (hc.handOver nrFrags hfrags)

theorem dropFrame_conserved (hc : s.pool.Conserved {f} {b} total) :
    ((s.rtwFreeXmitbuf b).rtwFreeXmitframe f).pool.Conserved ∅ ∅ total :=
  (rtwFreeXmitframe_handled _ f).done (s := s.rtwFreeXmitbuf b) hc.putBuf

theorem dequeueOneXmitframe_some {s' : XmitPriv} {ac : Ac} {n : TxServq}
    (h : s.dequeueOneXmitframe ac n = some (f, s')) :
    f ∈ s.queue (.staPending n) ∧ s'.pool = s.pool.take f := by
  unfold dequeueOneXmitframe at h
  split at h
  · exact absurd h (by simp)
  · rename_i g rest hhead
    dsimp only at h
    rw [Option.some.injEq, Prod.mk.injEq] at h
    obtain ⟨rfl, rfl⟩ := h
    refine ⟨hhead ▸ List.mem_cons_self, ?_⟩
    split
    · rfl
    · rfl

theorem rtwDequeueXframe_some {s' : XmitPriv} (h : s.rtwDequeueXframe = some (f, s')) :
    ∃ n, f ∈ s.queue (.staPending n) ∧ s'.pool = s.pool.take f := by
  obtain ⟨ac, -, hac⟩ := List.exists_of_findSome?_eq_some h
  obtain ⟨n, -, hn⟩ := List.exists_of_findSome?_eq_some hac
  exact ⟨n, dequeueOneXmitframe_some hn⟩

theorem rtwDequeueXframe_conserved {s' : XmitPriv} (hc : s.pool.Conserved ∅ B total)
    (h : s.rtwDequeueXframe = some (f, s')) : s'.pool.Conserved {f} B total := by
  obtain ⟨n, hf, hpool⟩ := rtwDequeueXframe_some h
  have hnot : f ∉ s.queue .freeXmitQueue := fun hfree => TxQueue.noConfusion (hc.once.one f _ _ hf hfree)
  have htaken := hc.take hnot
  rw [insert_empty_eq] at htaken
  exact hpool ▸ htaken

theorem xmitframeComplete_conserved (hc : s.pool.Conserved ∅ ∅ total) (coalesced : Option ℕ+) :
    (s.xmitframeComplete (coalesced.map (·.val))).2.pool.Conserved ∅ ∅ total := by
  unfold xmitframeComplete rtwAllocXmitbuf
  cases hfree : s.freeXmitbufQueue with
  | nil => exact hc
  | cons b rest =>
    dsimp only
    have hbuf : ({ s with freeXmitbufQueue := rest } : XmitPriv).pool.Conserved ∅ {b} total := hc.takeBuf hfree
    generalize ({ s with freeXmitbufQueue := rest } : XmitPriv) = t at hbuf ⊢
    cases hdeq : t.rtwDequeueXframe with
    | none => exact hbuf.putBuf
    | some r =>
      obtain ⟨f, u⟩ := r
      dsimp only
      have hheld := rtwDequeueXframe_conserved hbuf hdeq
      have hdone : (u.rtwOsXmitComplete f).pool.Conserved {f} {b} total := by
        rw [pool_rtwOsXmitComplete]
        exact hheld.complete hheld.notFree
      have hprio : (u.frames f).attrib.priority ≤ 15 := hheld.priority f
      rw [if_pos hprio]
      cases coalesced with
      | none => exact dropFrame_conserved hdone
      | some n => exact rtwDumpXframe_conserved hdone n n.pos

end Tasklet

/-! ## A packet -/

section Packet
variable {total : SkBuff → ℕ} {s : XmitPriv} {f : XmitFrameId}

theorem preEnqueue_conserved (hc : s.pool.Conserved {f} ∅ total) :
    (s.preEnqueue f).2.pool.Conserved ∅ ∅ total := by
  unfold preEnqueue
  rcases s.rtwXmitClassifier_cases f with h | ⟨n, s', h, hpool⟩
  · rw [h]
    exact (s.rtwFreeXmitframe_handled f).done hc
  · rw [h]
    exact (s.classified_handled f n (hc.loose f rfl) hpool).done hc

theorem preAwake_conserved (hc : s.pool.Conserved {f} ∅ total) (coalesced : Option ℕ+) :
    (s.preAwake f (coalesced.map (·.val))).2.pool.Conserved ∅ ∅ total := by
  unfold preAwake rtwAllocXmitbuf
  split
  · exact preEnqueue_conserved hc
  · split
    · exact preEnqueue_conserved hc
    · cases hfree : s.freeXmitbufQueue with
      | nil => exact preEnqueue_conserved hc
      | cons b rest =>
        have hbuf : ({ s with freeXmitbufQueue := rest } : XmitPriv).pool.Conserved {f} {b} total :=
          hc.takeBuf hfree
        cases coalesced with
        | none => exact dropFrame_conserved hbuf
        | some n => exact rtwDumpXframe_conserved hbuf n n.pos

theorem wakeCrowded_conserved (hc : s.pool.Conserved ∅ ∅ total) (a : TxAttrib) :
    (s.wakeCrowded a).pool.Conserved ∅ ∅ total := by
  unfold wakeCrowded
  split
  · exact hc
  · split
    · exact s.wakeupStaToXmit_conserved _ hc
    · exact hc

theorem selected_conserved (hc : s.pool.Conserved {f} ∅ total) :
    (s.setAttrib f (doQueueSelect (s.frames f).attrib)).pool.Conserved {f} ∅ total := by
  rw [s.pool_setAttrib f (doQueueSelect (s.frames f).attrib) rfl]
  exact hc

theorem preXmitframe_conserved (hc : s.pool.Conserved {f} ∅ total) (coalesced : Option ℕ+) :
    (s.preXmitframe f (coalesced.map (·.val))).2.pool.Conserved ∅ ∅ total := by
  have hselected := selected_conserved hc
  unfold preXmitframe
  rcases enqueueForSleeping_pool (s.setAttrib f (doQueueSelect (s.frames f).attrib)) f with
    ⟨s', h, hpool⟩ | ⟨s', h, hs⟩
  · rw [h]
    exact preAwake_conserved (hpool ▸ hselected) coalesced
  · rw [h]
    exact wakeCrowded_conserved (hs.done hselected) _

theorem xmitAttached_conserved (hc : s.pool.Conserved {f} ∅ total) (coalesced : Option ℕ+) :
    (s.xmitAttached f (coalesced.map (·.val))).2.pool.Conserved ∅ ∅ total ∧
      (s.xmitAttached f (coalesced.map (·.val))).1 ≠ .fail := by
  have hselected := selected_conserved hc
  unfold xmitAttached
  rcases enqueueForSleeping_pool (s.setAttrib f (doQueueSelect (s.frames f).attrib)) f with
    ⟨s', h, hpool⟩ | ⟨s', h, hs⟩
  · rw [h]
    have hpre := preXmitframe_conserved (hpool ▸ hselected) coalesced
    dsimp only
    generalize s'.preXmitframe f (coalesced.map (·.val)) = r at hpre ⊢
    obtain ⟨dumped, t⟩ := r
    cases dumped with
    | true => exact ⟨hpre, XmitRet.noConfusion⟩
    | false => exact ⟨hpre, XmitRet.noConfusion⟩
  · rw [h]
    exact ⟨hs.done hselected, XmitRet.noConfusion⟩

/-- How often a packet was taken, with this one. -/
def tookPkt (total : SkBuff → ℕ) (ret : XmitRet) (pkt skb : SkBuff) : ℕ :=
  total skb + if ret = .fail then 0 else [pkt].count skb

theorem rtwAllocXmitframe_some {s' : XmitPriv} (hc : s.pool.Conserved ∅ ∅ total)
    (h : s.rtwAllocXmitframe = (some f, s')) : s'.pool.Conserved {f} ∅ total ∧ s'.pool.pkt f = none := by
  unfold rtwAllocXmitframe at h
  cases hfree : s.queue .freeXmitQueue with
  | nil =>
    rw [hfree] at h
    exact absurd (congrArg Prod.fst h) (by simp)
  | cons g rest =>
    rw [hfree] at h
    dsimp only at h
    rw [Prod.mk.injEq, Option.some.injEq] at h
    obtain ⟨rfl, hs⟩ := h
    have hset := (s.listDel g).pool_setFrame g {}
    have hpool : s'.pool = s.pool.alloc g := by
      have hpkt := congrArg TxPool.pkt hset
      have hprio := congrArg TxPool.priority hset
      unfold TxPool.alloc
      unfold pool at hpkt hprio ⊢
      subst hs
      dsimp only at hpkt hprio ⊢
      rw [hpkt, hprio]
      rfl
    have hheld := hc.alloc hfree
    rw [insert_empty_eq] at hheld
    have hbare : Function.update s.pool.pkt g none g = none := Function.update_self ..
    rw [hpool]
    exact ⟨hheld, hbare⟩

theorem rtwXmit_conserved (hc : s.pool.Conserved ∅ ∅ total) (junk : UInt8) (pkt : SkBuff) (coalesced : Option ℕ+) :
    (s.rtwXmit junk pkt (coalesced.map (·.val))).2.pool.Conserved ∅ ∅
      (tookPkt total (s.rtwXmit junk pkt (coalesced.map (·.val))).1 pkt) := by
  unfold rtwXmit
  cases halloc : s.rtwAllocXmitframe with
  | mk r s' =>
    cases r with
    | none =>
      have hsame : s' = s := by
        unfold rtwAllocXmitframe at halloc
        split at halloc
        · exact (congrArg Prod.snd halloc).symm
        · exact absurd (congrArg Prod.fst halloc) (by simp)
      rw [hsame]
      exact hc
    | some f =>
      obtain ⟨hheld, hbare⟩ := rtwAllocXmitframe_some hc halloc
      dsimp only
      cases hattrib : updateAttrib s'.padapter junk pkt.data (s'.frames f).attrib.toPktAttrib with
      | none => exact (s'.rtwFreeXmitframe_handled f).done hheld
      | some a =>
        have hprio : a.priority ≤ 15 := by
          have hlt := (updateAttrib_spec _ _ _ _ _ hattrib).priority
          omega
        have hattached := hheld.attach rfl hbare pkt hprio
        have hpool : (s'.setFrame f ⟨⟨a, false, 0⟩, some pkt⟩).pool = s'.pool.attach f pkt a.priority :=
          s'.pool_setFrame f ⟨⟨a, false, 0⟩, some pkt⟩
        rw [← hpool] at hattached
        obtain ⟨hdone, hret⟩ := xmitAttached_conserved hattached coalesced
        have htook : tookPkt total ((s'.setFrame f ⟨⟨a, false, 0⟩, some pkt⟩).xmitAttached f
            (coalesced.map (·.val))).1 pkt = fun skb => total skb + [pkt].count skb := by
          funext skb
          rw [tookPkt, if_neg hret]
        exact htook ▸ hdone

end Packet

/-! ## Runs -/

/-- What happens to the transmit path. `coalesced` is what `rtw_xmitframe_coalesce` makes of a packet, the
number of its MPDUs or a failure; `driver` is the rest of the driver, which changes what it likes of the
adapter. -/
inductive TxEvent where
  | xmit (junk : UInt8) (pkt : SkBuff) (coalesced : Option ℕ+)
  | tasklet (coalesced : Option ℕ+)
  | writePortComplete (b : XmitBufId)
  | stop (psta : StaId)
  | wakeup (psta : StaId)
  | psPoll (psta : StaId) (priority : ℕ)
  | trigger (psta : StaId)
  | freeStainfo (psta : StaId)
  | driver (padapter : RtwAdapter) (staPs : StaId → StaPs) (timBitmap : BitVec 16)

/-- The state with the packets that `rtw_xmit` took. -/
structure TxHistory where
  s : XmitPriv
  accepted : List SkBuff := []

def TxHistory.put (h : TxHistory) (s : XmitPriv) : TxHistory := { h with s := s }

/-- A buffer whose transfers end was handed over; `stop` needs the broadcast station. -/
def TxEvent.step (h : TxHistory) : TxEvent → Option TxHistory
  | .xmit junk pkt coalesced =>
    let r := h.s.rtwXmit junk pkt (coalesced.map (·.val))
    some ⟨r.2, h.accepted ++ if r.1 = .fail then [] else [pkt]⟩
  | .tasklet coalesced => some (h.put (h.s.xmitframeComplete (coalesced.map (·.val))).2)
  | .writePortComplete b => if b ∈ h.s.writePort then some (h.put (h.s.usbWritePortComplete b)) else none
  | .stop psta => (h.s.stopStaXmit psta).map h.put
  | .wakeup psta => some (h.put (h.s.wakeupStaToXmit psta))
  | .psPoll psta priority => some (h.put (h.s.psPoll psta priority))
  | .trigger psta => some (h.put (h.s.xmitDeliveryEnabledFrames psta))
  | .freeStainfo psta => some (h.put (h.s.rtwFreeStainfo psta))
  | .driver padapter staPs timBitmap =>
    some (h.put { h.s with padapter := padapter, staPs := staPs, timBitmap := timBitmap })

def TxHistory.Owned (h : TxHistory) : Prop := h.s.pool.Conserved ∅ ∅ (h.accepted.count ·)

theorem TxEvent.step_owned {h h' : TxHistory} (event : TxEvent) (hstep : event.step h = some h')
    (howned : h.Owned) : h'.Owned := by
  cases event with
  | xmit junk pkt coalesced =>
    rw [TxEvent.step, Option.some.injEq] at hstep
    subst hstep
    have hc := rtwXmit_conserved howned junk pkt coalesced
    generalize h.s.rtwXmit junk pkt (coalesced.map (·.val)) = r at hc ⊢
    have htotal : (fun skb => (h.accepted ++ if r.1 = .fail then [] else [pkt]).count skb) =
        tookPkt (h.accepted.count ·) r.1 pkt := by
      funext skb
      rw [tookPkt, List.count_append]
      split <;> rfl
    rw [← htotal] at hc
    exact hc
  | tasklet coalesced =>
    rw [TxEvent.step, Option.some.injEq] at hstep
    subst hstep
    exact xmitframeComplete_conserved howned coalesced
  | writePortComplete b =>
    rw [TxEvent.step] at hstep
    split at hstep
    · rename_i hb
      rw [Option.some.injEq] at hstep
      subst hstep
      exact (howned.transferDone hb).putBuf
    · exact absurd hstep (by simp)
  | stop psta =>
    obtain ⟨s', hs', rfl⟩ := Option.map_eq_some_iff.mp hstep
    exact h.s.stopStaXmit_conserved psta hs' howned
  | wakeup psta =>
    rw [TxEvent.step, Option.some.injEq] at hstep
    subst hstep
    exact h.s.wakeupStaToXmit_conserved psta howned
  | psPoll psta priority =>
    rw [TxEvent.step, Option.some.injEq] at hstep
    subst hstep
    exact h.s.psPoll_conserved psta priority howned
  | trigger psta =>
    rw [TxEvent.step, Option.some.injEq] at hstep
    subst hstep
    exact h.s.xmitDeliveryEnabledFrames_conserved psta howned
  | freeStainfo psta =>
    rw [TxEvent.step, Option.some.injEq] at hstep
    subst hstep
    exact h.s.rtwFreeStainfo_conserved psta howned
  | driver padapter staPs timBitmap =>
    rw [TxEvent.step, Option.some.injEq] at hstep
    subst hstep
    exact howned

def TxHistory.run (h : TxHistory) (events : List TxEvent) : Option TxHistory := events.foldlM TxEvent.step h

theorem TxHistory.run_owned {h h' : TxHistory} (events : List TxEvent) (hrun : h.run events = some h')
    (howned : h.Owned) : h'.Owned := by
  induction events generalizing h with
  | nil =>
    cases hrun
    exact howned
  | cons event rest ih =>
    obtain ⟨t, ht, hrest⟩ := Option.bind_eq_some_iff.mp hrun
    exact ih hrest (event.step_owned ht howned)

theorem conserved_of_free {p : TxPool} (hfree : p.queue .freeXmitQueue = List.finRange 256)
    (hrest : ∀ q ≠ .freeXmitQueue, p.queue q = []) (hcnt : p.cnt = 256) (hpkt : ∀ f, p.pkt f = none)
    (hprio : ∀ f, p.priority f = 0) (hdone : p.completed = []) (hbufs : p.freeBufs = List.finRange 4)
    (hport : p.writePort = []) : p.Conserved ∅ ∅ fun _ => 0 where
  once := by
    have hmem : ∀ f q, f ∈ p.queue q → q = .freeXmitQueue := by
      intro f q hf
      by_contra hq
      rw [hrest q hq] at hf
      exact List.not_mem_nil hf
    constructor
    · intro q
      by_cases hq : q = .freeXmitQueue
      · rw [hq, hfree]
        exact List.nodup_finRange 256
      · rw [hrest q hq]
        exact List.nodup_nil
    · intro f q q' hq hq'
      rw [hmem f q hq, hmem f q' hq']
  placed f := Or.inr ⟨.freeXmitQueue, by rw [hfree]; exact List.mem_finRange f⟩
  loose f hf := absurd hf (Set.notMem_empty f)
  cnt := by rw [hcnt, hfree, List.length_finRange]
  bare f _ := hpkt f
  total skb := by simp [hdone, carried, hpkt]
  priority f := (hprio f).trans_le (Nat.zero_le 15)
  bufsNodup := by
    rw [hbufs]
    exact List.nodup_finRange 4
  bufsPlaced b := Or.inr (Or.inl (by rw [hbufs]; exact List.mem_finRange b))
  bufsApart b _ := by
    rw [hport]
    exact List.not_mem_nil
  bufsHeld b hb := absurd hb (Set.notMem_empty b)

theorem rtwInitXmitPriv_owned (padapter : RtwAdapter) : TxHistory.Owned ⟨rtwInitXmitPriv padapter, []⟩ := by
  have hfree : (rtwInitXmitPriv padapter).pool.queue .freeXmitQueue = List.finRange 256 := by
    unfold pool rtwInitXmitPriv
    dsimp only
  refine conserved_of_free hfree ?_ rfl (fun _ => rfl) (fun _ => rfl) rfl rfl rfl
  intro q hq
  cases q with
  | freeXmitQueue => exact absurd rfl hq
  | staPending n => rfl
  | sleepQ psta => rfl

/-- Nothing is lost and nothing is owned twice. -/
structure TxHistory.AllOwned (h : TxHistory) : Prop where
  frames : ∀ f, ∃ q, (h.s.queue q).count f = 1 ∧ ∀ q' ≠ q, (h.s.queue q').count f = 0
  cnt : h.s.freeXmitframeCnt = (h.s.queue .freeXmitQueue).length
  packets : ∀ skb, h.accepted.count skb =
    h.s.completed.count skb + (Finset.univ.filter fun f => (h.s.frames f).pkt = some skb).card
  attached : ∀ f, (h.s.frames f).pkt ≠ none → ∃ q ≠ .freeXmitQueue, f ∈ h.s.queue q
  buffers : ∀ b : XmitBufId, b ∈ h.s.freeXmitbufQueue ∧ b ∉ h.s.writePort ∨
    b ∉ h.s.freeXmitbufQueue ∧ b ∈ h.s.writePort

/-- **After every run** each frame is in one queue, once, the counter is the length of the free queue, each
packet is completed or in a queued frame as often as it was taken, and each buffer is free or handed to
`rtw_write_port`. -/
theorem txFrames_owned (padapter : RtwAdapter) (events : List TxEvent) (h : TxHistory)
    (hrun : TxHistory.run ⟨rtwInitXmitPriv padapter, []⟩ events = some h) : h.AllOwned := by
  have howned := TxHistory.run_owned events hrun (rtwInitXmitPriv_owned padapter)
  have hplaced : ∀ f, ∃ q, f ∈ h.s.queue q := fun f => (howned.placed f).resolve_left (Set.notMem_empty f)
  refine ⟨?_, howned.cnt, ?_, ?_, ?_⟩
  · intro f
    obtain ⟨q, hq⟩ := hplaced f
    refine ⟨q, List.count_eq_one_of_mem (howned.once.nodup q) hq, ?_⟩
    intro q' hne
    exact List.count_eq_zero_of_not_mem fun hq' => hne (howned.once.one f q' q hq' hq)
  · intro skb
    have hcarried : carried h.s.pool.pkt skb =
        (Finset.univ.filter fun f => (h.s.frames f).pkt = some skb).card := by
      rw [carried, Finset.card_filter]
      apply Finset.sum_congr rfl
      intro f _
      show (h.s.frames f).pkt.toList.count skb = _
      cases (h.s.frames f).pkt with
      | none => rfl
      | some x => simp [List.count_singleton]
    rw [← hcarried]
    exact (howned.total skb).symm
  · intro f hpkt
    obtain ⟨q, hq⟩ := hplaced f
    exact ⟨q, fun hfree => hpkt (howned.bare f (hfree ▸ hq)), hq⟩
  · intro b
    by_cases hfree : b ∈ h.s.freeXmitbufQueue
    · exact Or.inl ⟨hfree, howned.bufsApart b hfree⟩
    · exact Or.inr ⟨hfree, ((howned.bufsPlaced b).resolve_left (Set.notMem_empty b)).resolve_left hfree⟩

def sentPkt : SkBuff := ⟨0, zeroEth 100 (by decide)⟩

def sentEvents : List TxEvent := [.xmit 0 sentPkt (some 1), .writePortComplete 0, .tasklet none]

theorem txFrames_owned_sent : ∃ h,
    TxHistory.run ⟨rtwInitXmitPriv (stationAdapter {} {} 2346), []⟩ sentEvents = some h ∧
    h.accepted = [sentPkt] ∧ h.AllOwned :=
  ⟨_, rfl, rfl, txFrames_owned (stationAdapter {} {} 2346) sentEvents _ rfl⟩

end XmitPriv

end Rtl8723au
