import Rtl8723au.Xmit.SleepQueue

/-! What each function does to the `sleep_q` of a station, and to what counts it. -/
namespace Rtl8723au
open Intrusive
set_option autoImplicit false

namespace XmitPriv

/-- The step leaves the queue of `p`, and what counts it, as `v`. -/
structure Turned (p : StaId) (s s' : XmitPriv) (v : SleepView) : Prop where
  settled : Settled s s'
  once : Once s.queue → Once s'.queue
  view : s'.sleepView p = v

section Handed
variable {s : XmitPriv} {f : XmitFrameId} {p : StaId}

theorem Aside.txPendingAdd (n : TxServq) : Aside p s (s.txPendingAdd n) := by
  unfold XmitPriv.txPendingAdd
  split
  · exact .of_same rfl rfl rfl rfl rfl rfl
  · exact .refl p s

theorem Aside.rtwXmitClassifier (hf : Loose s.queue f) : Aside p s (s.rtwXmitClassifier f).2 := by
  unfold XmitPriv.rtwXmitClassifier
  dsimp only
  cases xmitSta s.padapter (s.frames f).attrib.toPktAttrib with
  | none => exact .refl p s
  | some psta =>
    dsimp only
    have hqueue : (s.txPendingAdd (psta, acOf (s.frames f).attrib.priority)).queue = s.queue := by
      unfold XmitPriv.txPendingAdd
      split <;> rfl
    have hlinked := Aside.txPendingAdd (p := p) (s := s) (psta, acOf (s.frames f).attrib.priority)
    have hadded := hlinked.trans (Aside.listAdd (hqueue ▸ hf) (n := .staPending (psta, acOf (s.frames f).attrib.priority))
      TxQueue.noConfusion)
    exact hadded.trans (.of_same rfl rfl rfl rfl rfl rfl)

theorem Aside.rtwFreeXmitframe (hf : f ∉ s.queue (.sleepQ p)) (hs : Once s.queue) :
    Aside p s (s.rtwFreeXmitframe f) := by
  have hbare : Aside p s (s.setFrame f { s.frames f with pkt := none }) := .setFrame _ rfl rfl rfl
  have htaken := hbare.trans (Aside.listDel (f := f) hf)
  have hloose : Loose (delInit s.queue f) f := hs.loose_delInit f
  have hmoved := htaken.trans (Aside.listAdd (n := .freeXmitQueue) hloose TxQueue.noConfusion)
  exact hmoved.trans (.of_same rfl rfl rfl rfl rfl rfl)

theorem Aside.rtwHalXmitframeEnqueue (hf : Loose s.queue f) (hs : Once s.queue) :
    Aside p s (s.rtwHalXmitframeEnqueue f) := by
  have haside := Aside.rtwXmitClassifier (p := p) hf
  have hcases := s.rtwXmitClassifier_cases f
  unfold XmitPriv.rtwHalXmitframeEnqueue
  generalize s.rtwXmitClassifier f = r at haside hcases ⊢
  obtain ⟨taken, t⟩ := r
  cases taken with
  | true => exact haside
  | false =>
    rcases hcases with hsame | ⟨n, s', hsome, -⟩
    · rw [(Prod.mk.inj hsame).2]
      exact Aside.rtwFreeXmitframe (hf _) hs
    · exact absurd (Prod.mk.inj hsome).1 Bool.false_ne_true

theorem Aside.deliver (a : TxAttrib) (hf : Loose s.queue f) (hs : Once s.queue)
    (hra : a.ra = (s.frames f).attrib.ra) (hpsta : a.psta = (s.frames f).attrib.psta)
    (hprio : a.priority = (s.frames f).attrib.priority) : Aside p s (s.deliver f a) := by
  have hmarked : Aside p s (s.setAttrib f { a with triggered := true }) := .setFrame _ hra hpsta hprio
  exact hmarked.trans (Aside.rtwHalXmitframeEnqueue hf hs)

end Handed

namespace Turned
variable {p : StaId} {s t t' : XmitPriv} {v : SleepView} {f : XmitFrameId}

theorem refl (p : StaId) (s : XmitPriv) : Turned p s s (s.sleepView p) := ⟨Settled.refl s, id, rfl⟩

theorem aside (h : Turned p s t v) (h' : Aside p t t') : Turned p s t' v where
  settled := h.settled.trans h'.settled
  once hs := h'.once (h.once hs)
  view := h'.view.trans h.view

theorem trans {v' : SleepView} (h : Turned p s t v) (h' : Turned p t t' v') : Turned p s t' v' where
  settled := h.settled.trans h'.settled
  once hs := h'.once (h.once hs)
  view := h'.view

theorem remove (h : Turned p s t v) (f : XmitFrameId) : Turned p s (t.listDel f) (v.remove f) where
  settled := h.settled.trans (Settled.of_same rfl rfl rfl)
  once hs := (h.once hs).delInit f
  view := by
    rw [← h.view]
    rfl

theorem lenDec (h : Turned p s t v) : Turned p s (t.lenDec p) v.lenDec where
  settled := by
    have hnoted : Settled t (t.noteWrap p (t.info p).sleepqLen) := Settled.of_same rfl rfl rfl
    exact h.settled.trans (hnoted.trans (settled_setInfo _ p _ rfl rfl rfl))
  once := h.once
  view := by
    have hwrapped : decide (p ∈ t.wrapped ++ if (t.info p).sleepqLen = 0 then [p] else []) =
        (decide (p ∈ t.wrapped) || (t.info p).sleepqLen == 0) := by
      by_cases hlen : (t.info p).sleepqLen = 0
      · rw [if_pos hlen, hlen]
        simp
      · rw [if_neg hlen, List.append_nil, beq_eq_false_iff_ne.mpr hlen, Bool.or_false]
    rw [← h.view]
    unfold sleepView SleepView.lenDec XmitPriv.lenDec XmitPriv.setLen XmitPriv.timTest
    rw [info_setInfo_self]
    dsimp only
    rw [← hwrapped]
    rfl

theorem acLenDec (h : Turned p s t v) : Turned p s (t.acLenDec p) v.acLenDec where
  settled := by
    have hnoted : Settled t (t.noteWrap p (t.staPs p).sleepqAcLen) := Settled.of_same rfl rfl rfl
    exact h.settled.trans (hnoted.trans (settled_setAcLen _ p _))
  once := h.once
  view := by
    have hwrapped : decide (p ∈ t.wrapped ++ if (t.staPs p).sleepqAcLen = 0 then [p] else []) =
        (decide (p ∈ t.wrapped) || (t.staPs p).sleepqAcLen == 0) := by
      by_cases hlen : (t.staPs p).sleepqAcLen = 0
      · rw [if_pos hlen, hlen]
        simp
      · rw [if_neg hlen, List.append_nil, beq_eq_false_iff_ne.mpr hlen, Bool.or_false]
    rw [← h.view]
    unfold sleepView SleepView.acLenDec XmitPriv.acLenDec XmitPriv.setAcLen XmitPriv.timTest
    rw [staPs_setPs_self]
    dsimp only
    rw [← hwrapped]
    rfl

theorem setTim (h : Turned p s t v) (tim : BitVec 16) :
    Turned p s (t.setTim tim) { v with tim := tim.getLsbD (t.info p).aid } where
  settled := h.settled.trans (Settled.of_same rfl rfl rfl)
  once := h.once
  view := by
    rw [← h.view, ← StaPriv.and_bitOf]
    rfl

theorem timClear (h : Turned p s t v) : Turned p s (t.timClear (t.info p).aid) { v with tim := false } := by
  have hcleared := h.setTim (t.timBitmap &&& ~~~StaPriv.bitOf (t.info p).aid)
  rw [StaPriv.getLsbD_clear_bitOf, decide_eq_true rfl, Bool.not_true, Bool.and_false] at hcleared
  exact hcleared

theorem timSet (h : Turned p s t v) (haid : (t.info p).aid < 16) :
    Turned p s (t.timSet (t.info p).aid) { v with tim := true } := by
  have hset := h.setTim (t.timBitmap ||| StaPriv.bitOf (t.info p).aid)
  rw [StaPriv.getLsbD_or_bitOf, decide_eq_true haid, decide_eq_true rfl, Bool.and_true, Bool.or_true] at hset
  exact hset

end Turned

end XmitPriv

def SleepView.sent (v : SleepView) (f : XmitFrameId) : SleepView :=
  if v.enabled f then (v.remove f).lenDec.acLenDec else (v.remove f).lenDec

theorem SleepView.Counted.sent {v : SleepView} {f : XmitFrameId} (h : v.Counted) (hf : f ∈ v.queue) :
    (v.sent f).Counted := by
  unfold SleepView.sent
  cases henabled : v.enabled f with
  | true => exact h.leaveEnabled hf henabled
  | false => exact h.leave hf henabled

theorem SleepView.sent_queue (v : SleepView) (f : XmitFrameId) : (v.sent f).queue = v.queue.erase f := by
  unfold SleepView.sent
  split <;> rfl

namespace XmitPriv

/-! ## The station and the broadcast station -/

theorem bmc_multicast {sp : StaPriv} {q : StaId} {hwaddr : MacAddr} (hra : isMulticastEtherAddr hwaddr = true)
    (h : rtwGetStainfo sp (some hwaddr) = some q) : isMulticastEtherAddr (sp.staInfo q).hwaddr = true := by
  unfold rtwGetStainfo at h
  dsimp only at h
  rw [if_pos hra] at h
  have hfound := List.find?_some h
  rw [beq_iff_eq] at hfound
  rw [hfound]
  decide

theorem PsStation.ne_bmc {s : XmitPriv} {p q : StaId} (h : s.PsStation p)
    (hq : rtwGetBcmcStainfo s.padapter.stapriv = some q) : q ≠ p := by
  intro hqp
  have hmulticast := bmc_multicast (by decide) hq
  have hunicast : isMulticastEtherAddr (s.padapter.stapriv.staInfo p).hwaddr = false := h.unicast
  rw [hqp, hunicast] at hmulticast
  exact Bool.false_ne_true hmulticast

theorem xmitSta_some {a : RtwAdapter} {t : PktAttrib} {q : StaId} (h : xmitSta a t = some q) :
    (a.staInfo q).inState _FW_LINKED = true ∧
      (t.psta = some q ∨ t.psta = none ∧ rtwGetStainfo a.stapriv (some t.ra) = some q) := by
  have hlinked : ∀ psta, linkedSta a psta = some q → psta = q ∧ (a.staInfo q).inState _FW_LINKED = true := by
    intro psta hsome
    unfold linkedSta at hsome
    split at hsome
    · rename_i hstate
      obtain rfl := Option.some.inj hsome
      exact ⟨rfl, hstate⟩
    · exact absurd hsome.symm (Option.some_ne_none q)
  unfold xmitSta at h
  cases hattrib : t.psta with
  | some psta =>
    rw [hattrib] at h
    obtain ⟨rfl, hstate⟩ := hlinked psta h
    exact ⟨hstate, Or.inl rfl⟩
  | none =>
    rw [hattrib] at h
    obtain ⟨psta, hfound, hsame⟩ := Option.bind_eq_some_iff.mp h
    obtain ⟨rfl, hstate⟩ := hlinked psta hsame
    exact ⟨hstate, Or.inr ⟨rfl, hfound⟩⟩

theorem PsStation.ne_multicast {s : XmitPriv} {p q : StaId} {f : XmitFrameId} (h : s.PsStation p)
    (hra : isMulticastEtherAddr (s.frames f).attrib.ra = true)
    (hq : xmitSta s.padapter (s.frames f).attrib.toPktAttrib = some q) : q ≠ p := by
  rintro rfl
  rcases (xmitSta_some hq).2 with hattrib | ⟨-, hfound⟩
  · exact h.addressed f hra hattrib
  · have hmulticast := bmc_multicast hra hfound
    have hunicast : isMulticastEtherAddr (s.padapter.stapriv.staInfo q).hwaddr = false := h.unicast
    rw [hunicast] at hmulticast
    exact Bool.false_ne_true hmulticast

/-! ## Waking up -/

section Wake
variable {p q : StaId} {s : XmitPriv} {f : XmitFrameId}

theorem wakeupTurn_turned (hp : s.PsStation p) (hs : Once s.queue) :
    Turned p s (wakeupTurn p s f) ((s.sleepView p).sent f) := by
  have htaken := (Turned.refl p s).remove f
  have hloose : Loose (delInit s.queue f) f := hs.loose_delInit f
  have hprio := hp.wmmpsAc (s.frames f).attrib.priority
  unfold wakeupTurn SleepView.sent
  dsimp only
  by_cases henabled : (s.sleepView p).enabled f = true
  · have hac : (((s.listDel f).lenDec p).staPs p).wmmpsAc 1 (s.frames f).attrib.priority = true :=
      hprio.trans henabled
    rw [if_pos hac, if_pos henabled]
    exact htaken.lenDec.acLenDec.aside (.deliver _ hloose (hs.delInit f) rfl rfl rfl)
  · have hac : ¬ (((s.listDel f).lenDec p).staPs p).wmmpsAc 1 (s.frames f).attrib.priority = true :=
      fun h => henabled (hprio.symm.trans h)
    rw [if_neg hac, if_neg henabled]
    exact htaken.lenDec.aside (.deliver _ hloose (hs.delInit f) rfl rfl rfl)

theorem wakeupLoop_turned (l : List XmitFrameId) (s : XmitPriv) (hp : s.PsStation p) (hs : Once s.queue)
    (hl : (s.sleepView p).queue = l) (hc : (s.sleepView p).Counted) :
    ∃ v, Turned p s (l.foldl (wakeupTurn p) s) v ∧ v.Counted ∧ v.queue = [] := by
  induction l generalizing s with
  | nil => exact ⟨s.sleepView p, Turned.refl p s, hc, hl⟩
  | cons f rest ih =>
    have hturn := wakeupTurn_turned (f := f) hp hs
    have hcounted := hc.sent (f := f) (hl ▸ List.mem_cons_self)
    have hqueue : ((s.sleepView p).sent f).queue = rest := by
      rw [SleepView.sent_queue, hl, List.erase_cons_head]
    rw [← hturn.view] at hcounted hqueue
    obtain ⟨v, hloop, hv⟩ := ih (wakeupTurn p s f) (hp.settled hturn.settled) (hturn.once hs) hqueue hcounted
    exact ⟨v, hturn.trans hloop, hv⟩

theorem wakeupInfo_linked (expireTo : ℕ) (info : StaInfo) :
    (wakeupInfo expireTo info).inState _FW_LINKED = info.inState _FW_LINKED := by
  have hawake : ((info.setSleepqLen 0).toggleState WIFI_SLEEP_STATE).inState _FW_LINKED = info.inState _FW_LINKED :=
    (info.setSleepqLen 0).inState_toggleState (by decide)
  have halive : ∀ i : StaInfo, ((i.toggleState WIFI_STA_ALIVE_CHK_STATE).setExpireTo expireTo).inState _FW_LINKED =
      i.inState _FW_LINKED := fun i => i.inState_toggleState (by decide)
  unfold wakeupInfo
  dsimp only
  split <;> split
  · exact (halive _).trans hawake
  · exact hawake
  · exact halive _
  · rfl

theorem wakeSta_turned {t : XmitPriv} {v : SleepView} (h : Turned p s t v) (hlen : (t.info p).sleepqLen = 0) :
    Turned p s (t.wakeSta p) { v with tim := false } := by
  refine h.timClear.aside ((Aside.setInfo (q := p) _ ?_ ?_ ?_ ?_).trans (.of_same rfl rfl rfl rfl rfl rfl))
  · unfold wakeupInfo
    dsimp only
    split <;> split <;> rfl
  · unfold wakeupInfo
    dsimp only
    split <;> split <;> rfl
  · exact wakeupInfo_linked _ _
  · intro _
    refine Eq.trans ?_ hlen.symm
    unfold wakeupInfo
    dsimp only
    split <;> split <;> rfl

theorem wakeupUnicast_turned (hp : s.PsStation p) (hs : Once s.queue) (hc : (s.sleepView p).Counted) :
    ∃ v, Turned p s (s.wakeupUnicast p) v ∧ v.Counted ∧ v.queue = [] ∧ v.tim = false := by
  obtain ⟨v, hloop, hv, hempty⟩ := wakeupLoop_turned (s.queue (.sleepQ p)) s hp hs rfl hc
  unfold wakeupUnicast
  dsimp only
  have hlen : (((s.queue (.sleepQ p)).foldl (wakeupTurn p) s).info p).sleepqLen = 0 := by
    have hview := congrArg SleepView.len hloop.view
    have hzero : v.len = 0 := by
      rw [hv.len, hempty]
      rfl
    exact hview.trans hzero
  generalize (s.queue (.sleepQ p)).foldl (wakeupTurn p) s = t at hloop hlen ⊢
  rw [if_pos hlen]
  exact ⟨_, wakeSta_turned hloop hlen, ⟨hv.nodup, hv.len, hv.acLen, hv.wrapped⟩, hempty, rfl⟩

theorem wakeupBmcLoop_aside (hq : q ≠ p) (l : List XmitFrameId) (s : XmitPriv) (hs : Once s.queue)
    (hl : ∀ f ∈ l, f ∉ s.queue (.sleepQ p)) : Aside p s (l.foldl (wakeupBmcTurn q) s) := by
  induction l generalizing s with
  | nil => exact .refl p s
  | cons f rest ih =>
    have htaken := (Aside.listDel (hl f List.mem_cons_self)).trans (Aside.lenDec hq)
    have hturn : Aside p s (wakeupBmcTurn q s f) :=
      htaken.trans (.deliver _ (hs.loose_delInit f) (hs.delInit f) rfl rfl rfl)
    refine hturn.trans (ih (wakeupBmcTurn q s f) (hturn.once hs) fun g hg => ?_)
    rw [hturn.queue]
    exact hl g (List.mem_cons_of_mem f hg)

theorem wakeupBmc_aside (hp : s.PsStation p) (hs : Once s.queue) : Aside p s s.wakeupBmc := by
  unfold wakeupBmc
  cases hbmc : rtwGetBcmcStainfo s.padapter.stapriv with
  | none => exact .refl p s
  | some q =>
    dsimp only
    have hq := hp.ne_bmc hbmc
    by_cases hdz : s.dz &&& 0xfffe = 0
    · rw [if_pos hdz]
      have hloop := wakeupBmcLoop_aside hq (s.queue (.sleepQ q)) s hs fun f hf hf' =>
        hq (TxQueue.sleepQ.inj (hs.one f _ _ hf hf'))
      generalize (s.queue (.sleepQ q)).foldl (wakeupBmcTurn q) s = t at hloop ⊢
      split
      · have haid : 0 ≠ (t.info p).aid := by
          have hpos := (hp.settled hloop.settled).aid.1
          omega
        exact (hloop.trans (Aside.timClear haid)).trans (.of_same rfl rfl rfl rfl rfl rfl)
      · exact hloop
    · rw [if_neg hdz]
      exact .refl p s

end Wake

end XmitPriv

/-! ## The accounts -/

/-- The queue, what counts it, and its bit agree. -/
structure SleepView.Fair (v : SleepView) : Prop where
  counted : v.Counted
  announced : v.Announced
  quiet : v.Quiet

/-- The accounts of `p` are fair. -/
structure XmitPriv.Kept (p : StaId) (s : XmitPriv) : Prop where
  sta : s.PsStation p
  once : Once s.queue
  fair : (s.sleepView p).Fair

namespace SleepView
variable {v : SleepView} {f : XmitFrameId}

theorem Counted.setTim (h : v.Counted) (tim : Bool) : ({ v with tim := tim } : SleepView).Counted :=
  ⟨h.nodup, h.len, h.acLen, h.wrapped⟩

theorem Fair.of_empty (hc : v.Counted) (hempty : v.queue = []) (htim : v.tim = false) : v.Fair where
  counted := hc
  announced f hf := by
    rw [hempty] at hf
    exact absurd hf List.not_mem_nil
  quiet _ := htim

/-- The first frame is polled for; the bit goes with the last. -/
def polled (v : SleepView) (f : XmitFrameId) : SleepView :=
  let w := (v.remove f).lenDec
  if w.len = 0 then { w with tim := false } else w

theorem Fair.polled (h : v.Fair) (hf : f ∈ v.queue) (hlegacy : v.enabled f = false) : (v.polled f).Fair := by
  have hcounted := h.counted.leave hf hlegacy
  unfold SleepView.polled
  dsimp only
  by_cases hlen : (v.remove f).lenDec.len = 0
  · rw [if_pos hlen]
    have hempty : (v.remove f).lenDec.queue = [] := List.length_eq_zero_iff.mp (hcounted.len.symm.trans hlen)
    exact Fair.of_empty (hcounted.setTim false) hempty rfl
  · rw [if_neg hlen]
    refine ⟨hcounted, fun g hg => h.announced g (List.mem_of_mem_erase hg), fun hempty => ?_⟩
    refine absurd (hcounted.len.trans ?_) hlen
    rw [hempty]
    rfl

/-- A frame joins; `legacy` tells whether the station has a legacy category. -/
def joined (v : SleepView) (legacy : Bool) (f : XmitFrameId) : SleepView :=
  if (legacy && !v.enabled f) || (!legacy && v.enabled f) then { v.join f with tim := true } else v.join f

theorem Fair.joined {legacy : Bool} (h : v.Fair) (hf : f ∉ v.queue)
    (hlegacy : legacy = false → v.enabled f = true) : (v.joined legacy f).Fair := by
  have hcounted := h.counted.join hf
  have hsome : (v.join f).queue ≠ [] := List.append_ne_nil_of_right_ne_nil _ (List.cons_ne_nil f [])
  unfold SleepView.joined
  split
  · exact ⟨hcounted.setTim true, fun _ _ _ => rfl, fun hempty => absurd hempty hsome⟩
  · rename_i hsilent
    refine ⟨hcounted, ?_, fun hempty => absurd hempty hsome⟩
    intro g hg (hlegacyFrame : v.enabled g = false)
    rcases List.mem_append.mp hg with hg | hg
    · exact h.announced g hg hlegacyFrame
    · rw [List.mem_singleton] at hg
      subst hg
      cases legacy with
      | true =>
        rw [hlegacyFrame] at hsilent
        exact absurd rfl hsilent
      | false =>
        rw [hlegacy rfl] at hlegacyFrame
        exact Bool.noConfusion hlegacyFrame

/-- A turn of the delivery of the enabled categories. -/
def triggered (v : SleepView) (legacy : Bool) (f : XmitFrameId) : SleepView :=
  if v.enabled f then
    let w := (v.remove f).lenDec.acLenDec
    if w.acLen = 0 ∧ legacy = false then { w with tim := false } else w
  else v

/-- What the turns keep, `v` being the queue before the first. -/
structure Delivering (legacy : Bool) (v w : SleepView) : Prop where
  counted : w.Counted
  announced : w.Announced
  enabled : w.enabled = v.enabled
  stays : ∀ f ∈ v.queue, v.enabled f = false → f ∈ w.queue
  tim : legacy = true → w.tim = v.tim
  quiet : legacy = false → w.Quiet

theorem Fair.delivering (h : v.Fair) (legacy : Bool) : Delivering legacy v v :=
  ⟨h.counted, h.announced, rfl, fun _ hf _ => hf, fun _ => rfl, fun _ => h.quiet⟩

theorem Delivering.turn {legacy : Bool} {w : SleepView} (h : Delivering legacy v w) (hf : f ∈ w.queue)
    (hall : legacy = false → ∀ g, v.enabled g = true) : Delivering legacy v (w.triggered legacy f) := by
  unfold triggered
  by_cases henabled : w.enabled f = true
  · rw [if_pos henabled]
    dsimp only
    have hcounted := h.counted.leaveEnabled hf henabled
    have hstays : ∀ g ∈ v.queue, v.enabled g = false → g ∈ w.queue.erase f := by
      intro g hg hlegacyFrame
      have hne : g ≠ f := by
        rintro rfl
        rw [h.enabled, hlegacyFrame] at henabled
        exact Bool.false_ne_true henabled
      exact (List.mem_erase_of_ne hne).mpr (h.stays g hg hlegacyFrame)
    by_cases hlast : (w.remove f).lenDec.acLenDec.acLen = 0 ∧ legacy = false
    · rw [if_pos hlast]
      refine ⟨hcounted.setTim false, ?_, h.enabled, hstays, ?_, fun _ _ => rfl⟩
      · intro g _ (hlegacyFrame : w.enabled g = false)
        rw [h.enabled, hall hlast.2 g] at hlegacyFrame
        exact Bool.noConfusion hlegacyFrame
      · intro hlegacy
        rw [hlegacy] at hlast
        exact Bool.noConfusion hlast.2
    · rw [if_neg hlast]
      refine ⟨hcounted, fun g hg => h.announced g (List.mem_of_mem_erase hg), h.enabled, hstays, h.tim, ?_⟩
      intro hlegacy hempty
      refine absurd ⟨?_, hlegacy⟩ hlast
      rw [hcounted.acLen, hempty]
      rfl
  · rw [if_neg henabled]
    exact h

theorem Delivering.fair {legacy : Bool} {w : SleepView} (h : Delivering legacy v w) (hv : v.Quiet)
    (hclean : legacy = true → v.tim = true → v.queue ≠ [] → ∃ f ∈ v.queue, v.enabled f = false) :
    w.Fair := by
  refine ⟨h.counted, h.announced, fun hempty => ?_⟩
  cases legacy with
  | false => exact h.quiet rfl hempty
  | true =>
    rw [h.tim rfl, ← Bool.not_eq_true]
    intro htim
    have hsome : v.queue ≠ [] := fun hnone => Bool.false_ne_true ((hv hnone).symm.trans htim)
    obtain ⟨f, hf, hlegacyFrame⟩ := hclean rfl htim hsome
    have hstill := h.stays f hf hlegacyFrame
    rw [hempty] at hstill
    exact absurd hstill List.not_mem_nil

end SleepView

namespace XmitPriv

theorem Turned.setAcLen {p : StaId} {s t : XmitPriv} {v : SleepView} (h : Turned p s t v) (n : ℕ) :
    Turned p s (t.setAcLen p n) { v with acLen := n } where
  settled := h.settled.trans (settled_setAcLen t p n)
  once := h.once
  view := by
    rw [← h.view]
    unfold sleepView XmitPriv.setAcLen XmitPriv.timTest
    rw [staPs_setPs_self]
    rfl

namespace Kept
variable {p : StaId} {s s' : XmitPriv} {f : XmitFrameId}

theorem turned {v : SleepView} (h : Kept p s) (ht : Turned p s s' v) (hv : v.Fair) : Kept p s' where
  sta := h.sta.settled ht.settled
  once := ht.once h.once
  fair := ht.view ▸ hv

theorem aside (h : Kept p s) (h' : Aside p s s') : Kept p s' := h.turned ((Turned.refl p s).aside h') h.fair

/-! ## Falling asleep -/

theorem sleepqAdd_turned (hf : f ∉ s.queue (.sleepQ p)) : Turned p s (s.sleepqAdd f p)
    { s.sleepView p with
      queue := (s.sleepView p).queue ++ [f]
      len := uint ((s.sleepView p).len + 1) } where
  settled := by
    have hmoved : Settled s ((s.listDel f).listAdd (.sleepQ p) f) := Settled.of_same rfl rfl rfl
    exact hmoved.trans (settled_setInfo _ p ((s.info p).setSleepqLen (uint ((s.info p).sleepqLen + 1))) rfl rfl rfl)
  once hs := hs.moveTail _ f
  view := by
    have hqueue : addTail (delInit s.queue f) (.sleepQ p) f (.sleepQ p) = s.queue (.sleepQ p) ++ [f] := by
      rw [addTail_self, delInit_of_not_mem hf]
    unfold sleepView sleepqAdd XmitPriv.setLen XmitPriv.timTest
    rw [info_setInfo_self, ← hqueue]
    rfl

theorem enqueued_turned (hp : s.PsStation p) (hf : f ∉ s.queue (.sleepQ p)) :
    Turned p s ((s.sleepqAdd f p).noteSleeping f p)
      ((s.sleepView p).joined (s.staPs p).hasLegacyAc f) := by
  have hadded := sleepqAdd_turned hf
  have haid := (hp.settled hadded.settled).aid.2
  have hps : (s.sleepqAdd f p).staPs p = s.staPs p := rfl
  have hframe : (s.sleepqAdd f p).frames f = s.frames f := rfl
  unfold noteSleeping SleepView.joined SleepView.join
  dsimp only
  rw [hps, hframe]
  generalize s.sleepqAdd f p = t at hadded haid ⊢
  have henabled : (s.sleepView p).enabled f = (s.staPs p).wmmpsAc 0 (s.frames f).attrib.priority := rfl
  rw [henabled]
  cases (s.staPs p).wmmpsAc 0 (s.frames f).attrib.priority with
  | true =>
    rw [if_pos rfl, if_pos rfl]
    have hcounted := hadded.setAcLen (uint ((s.staPs p).sleepqAcLen + 1))
    cases (s.staPs p).hasLegacyAc with
    | true => exact hcounted
    | false =>
      have haid' : (((t.setAcLen p (uint ((s.staPs p).sleepqAcLen + 1))).info p).aid) < 16 := by
        show (t.info p).aid < 16
        omega
      exact hcounted.timSet haid'
  | false =>
    rw [if_neg Bool.false_ne_true, if_neg Bool.false_ne_true]
    cases (s.staPs p).hasLegacyAc with
    | true => exact hadded.timSet (by omega)
    | false => exact hadded

theorem sleepqAdd_aside {q : StaId} (hq : q ≠ p) (hs : Once s.queue) (hf : f ∉ s.queue (.sleepQ p)) :
    Aside p s (s.sleepqAdd f q) := by
  have htaken := Aside.listDel hf
  have hloose : Loose (delInit s.queue f) f := hs.loose_delInit f
  exact (htaken.trans (.listAdd hloose fun h => hq (TxQueue.sleepQ.inj h))).trans (.setLen hq _)

theorem noteSleeping_aside {q : StaId} (hq : q ≠ p) (haid : (s.info q).aid ≠ (s.info p).aid) :
    Aside p s (s.noteSleeping f q) := by
  unfold noteSleeping
  dsimp only
  cases (s.staPs q).wmmpsAc 0 (s.frames f).attrib.priority with
  | true =>
    rw [if_pos rfl]
    have hcounted : Aside p s (s.setAcLen q (uint ((s.staPs q).sleepqAcLen + 1))) := .setAcLen hq _
    split
    · exact hcounted.trans (.timSet haid)
    · exact hcounted
  | false =>
    rw [if_neg Bool.false_ne_true]
    split
    · exact .timSet haid
    · exact .refl p s

theorem xmitframeEnqueueForSleepingSta (h : Kept p s) (hf : f ∉ s.queue (.sleepQ p)) :
    Kept p (s.xmitframeEnqueueForSleepingSta f).2 := by
  have houtcome := s.xmitframeEnqueueForSleepingSta_outcome f
  generalize s.xmitframeEnqueueForSleepingSta f = r at houtcome
  cases houtcome with
  | awake => exact h
  | highQueue => exact h.aside (.setFrame _ rfl rfl rfl)
  | bmc q _ hsta _ hra =>
    have hq := h.sta.ne_multicast hra hsta
    have hadded := sleepqAdd_aside hq h.once hf
    have haid : 0 ≠ ((s.sleepqAdd f q).info p).aid := by
      have hpos := (h.sta.settled hadded.settled).aid.1
      omega
    exact h.aside ((hadded.trans (.timSet haid)).trans (.of_same rfl rfl rfl rfl rfl rfl))
  | unicast q _ hsta =>
    by_cases hq : q = p
    · subst hq
      exact h.turned (enqueued_turned h.sta hf) (h.fair.joined hf fun hlegacy => h.sta.enabled hlegacy _)
    · have hadded := sleepqAdd_aside hq h.once hf
      have haid := (h.sta.settled hadded.settled).alone q hq ((hadded.settled.linked q).trans (xmitSta_some hsta).1)
      exact h.aside (hadded.trans (noteSleeping_aside hq haid))

theorem stopServq (q : StaId) (ac : Ac) (h : Kept p s) : Kept p (stopServq q s ac) := by
  have hloop : Kept p ((s.queue (.staPending (q, ac))).foldl (sleepTurn q) s) := by
    refine foldl_only (P := Kept p) (sleepTurn q) (.staPending (q, ac)) ?_ _ s (h.once.nodup _)
      (fun _ hf => hf) h
    intro t f ht hf
    refine ⟨?_, (t.sleepTurn_turn q f).only⟩
    have hstep := ht.xmitframeEnqueueForSleepingSta (f := f) fun hsleep =>
      TxQueue.noConfusion (ht.once.one f _ _ hf hsleep)
    unfold sleepTurn
    generalize t.xmitframeEnqueueForSleepingSta f = r at hstep ⊢
    obtain ⟨taken, t'⟩ := r
    cases taken with
    | true => exact hstep.aside (.of_same rfl rfl rfl rfl rfl rfl)
    | false => exact hstep
  exact hloop.aside (.of_same rfl rfl rfl rfl rfl rfl)

theorem stopStaXmit {q : StaId} (h : Kept p s) (hstop : s.stopStaXmit q = some s') : Kept p s' := by
  obtain ⟨pstaBmc, -, rfl⟩ := Option.map_eq_some_iff.mp hstop
  have hasleep : Aside p s (s.setInfo q ((s.info q).setState WIFI_SLEEP_STATE)) := .setInfo _ rfl rfl ((s.info q).inState_setState (by decide)) fun _ => rfl
  have hmarked : Kept p (s.markSleeping q) := h.aside (hasleep.trans (.of_same rfl rfl rfl rfl rfl rfl))
  exact ((((hmarked.stopServq q .vo).stopServq q .vi).stopServq q .be).stopServq q .bk).stopServq pstaBmc .be

/-! ## Waking up, and being polled -/

theorem wakeupStaToXmit (h : Kept p s) : Kept p (s.wakeupStaToXmit p) := by
  obtain ⟨v, hturned, hcounted, hempty, htim⟩ := wakeupUnicast_turned h.sta h.once h.fair.counted
  have hwoken := h.turned hturned (.of_empty hcounted hempty htim)
  exact hwoken.aside (wakeupBmc_aside hwoken.sta hwoken.once)

theorem noteAlive (h : Kept p s) (q : StaId) : Kept p (s.noteAlive q) := by
  unfold XmitPriv.noteAlive
  dsimp only
  split
  · exact h.aside (.setInfo _ rfl rfl ((s.info q).inState_toggleState (by decide)) fun _ => rfl)
  · exact h

theorem pollSleepq (h : Kept p s)
    (hclean : ∀ f rest, s.queue (.sleepQ p) = f :: rest → (s.sleepView p).enabled f = false) :
    Kept p (s.pollSleepq p) := by
  unfold XmitPriv.pollSleepq
  cases hqueue : s.queue (.sleepQ p) with
  | nil =>
    dsimp only
    have hquiet : s.timTest (s.info p).aid = false := h.fair.quiet hqueue
    rw [if_neg]
    · exact h
    · exact fun htim => Bool.false_ne_true (hquiet.symm.trans (bne_iff_ne.mpr htim))
  | cons f rest =>
    dsimp only
    have hf : f ∈ (s.sleepView p).queue := (hqueue ▸ List.mem_cons_self : f ∈ s.queue (.sleepQ p))
    have hpolled := h.fair.polled hf (hclean f rest hqueue)
    have htaken := ((Turned.refl p s).remove f).lenDec
    have hdelivered := htaken.aside (.deliver (f := f)
      (withMdata (s.frames f).attrib (((s.listDel f).lenDec p).info p).sleepqLen)
      (h.once.loose_delInit f) (h.once.delInit f) rfl rfl rfl)
    have hlen := congrArg SleepView.len hdelivered.view
    unfold SleepView.polled at hpolled
    dsimp only at hpolled
    generalize ((s.listDel f).lenDec p).deliver f _ = t at hdelivered hlen ⊢
    have hlen' : (t.info p).sleepqLen = ((s.sleepView p).remove f).lenDec.len := hlen
    rw [hlen']
    by_cases hzero : ((s.sleepView p).remove f).lenDec.len = 0
    · rw [if_pos hzero] at hpolled ⊢
      exact h.turned hdelivered.timClear hpolled
    · rw [if_neg hzero] at hpolled ⊢
      exact h.turned hdelivered hpolled

end Kept

/-! ## Delivering the enabled categories -/

section Trigger
variable {p : StaId} {s : XmitPriv} {f : XmitFrameId}

theorem triggerTurn_turned (hp : s.PsStation p) (hs : Once s.queue) :
    Turned p s (triggerTurn p s f) ((s.sleepView p).triggered (s.staPs p).hasLegacyAc f) := by
  have hprio := hp.wmmpsAc (s.frames f).attrib.priority
  unfold triggerTurn SleepView.triggered
  dsimp only
  by_cases henabled : (s.sleepView p).enabled f = true
  · have hac : (s.staPs p).wmmpsAc 1 (s.frames f).attrib.priority = true := hprio.trans henabled
    rw [if_pos hac, if_pos henabled]
    have hdelivered := (((Turned.refl p s).remove f).lenDec.acLenDec).aside (.deliver (f := f)
      (withEosp (s.frames f).attrib ((((s.listDel f).lenDec p).acLenDec p).staPs p).sleepqAcLen)
      (hs.loose_delInit f) (hs.delInit f) rfl rfl rfl)
    have hacLen := congrArg SleepView.acLen hdelivered.view
    have hlegacy := hdelivered.settled.hasLegacyAc p
    generalize (((s.listDel f).lenDec p).acLenDec p).deliver f _ = t at hdelivered hacLen hlegacy ⊢
    have hacLen' : (t.staPs p).sleepqAcLen = ((s.sleepView p).remove f).lenDec.acLenDec.acLen := hacLen
    rw [hacLen', hlegacy]
    split
    · exact hdelivered.timClear
    · exact hdelivered
  · have hac : ¬ (s.staPs p).wmmpsAc 1 (s.frames f).attrib.priority = true :=
      fun h => henabled (hprio.symm.trans h)
    rw [if_neg hac, if_neg henabled]
    exact Turned.refl p s

theorem Kept.xmitDeliveryEnabledFrames (h : Kept p s)
    (hclean : (s.staPs p).hasLegacyAc = true → (s.sleepView p).tim = true → (s.sleepView p).queue ≠ [] →
      ∃ f ∈ (s.sleepView p).queue, (s.sleepView p).enabled f = false) :
    Kept p (s.xmitDeliveryEnabledFrames p) := by
  have hloop : ∃ w, Turned p s (s.xmitDeliveryEnabledFrames p) w ∧
      SleepView.Delivering (s.staPs p).hasLegacyAc (s.sleepView p) w := by
    refine foldl_only (P := fun t => ∃ w, Turned p s t w ∧
      SleepView.Delivering (s.staPs p).hasLegacyAc (s.sleepView p) w) (triggerTurn p) (.sleepQ p) ?_ _ s
      (h.once.nodup _) (fun _ hf => hf) ⟨_, Turned.refl p s, h.fair.delivering _⟩
    rintro t f ⟨w, hturned, hdelivering⟩ hf
    have honce := hturned.once h.once
    have hturn := triggerTurn_turned (f := f) (h.sta.settled hturned.settled) honce
    rw [hturned.settled.hasLegacyAc p, hturned.view] at hturn
    have hf' : f ∈ w.queue := hturned.view ▸ hf
    refine ⟨⟨_, hturned.trans hturn, hdelivering.turn hf' fun hlegacy g => ?_⟩, (t.triggerTurn_turn p f honce).only⟩
    exact h.sta.enabled hlegacy _
  obtain ⟨w, hturned, hdelivering⟩ := hloop
  exact h.turned hturned (hdelivering.fair h.fair.quiet hclean)

end Trigger

end XmitPriv

end Rtl8723au
