import Rtl8723au.Xmit.DozeBits

/-! Runs of the power-save bitmaps: the bit of a station covers it from the moment it falls asleep until it
wakes up or leaves, when the bitmaps have such a bit. -/
namespace Rtl8723au
open Intrusive
set_option autoImplicit false

namespace XmitPriv

/-! ## The events -/

/-- What happens to the stations and their frames; the rest of the driver changes the adapter, but no
`sleepq_len`. -/
inductive DozeEvent where
  | alloc
  | setFrame (f : XmitFrameId) (frame : TxFrame)
  | enqueue (f : XmitFrameId)
  | halEnqueue (f : XmitFrameId)
  | dequeue
  | free (f : XmitFrameId)
  | stop (psta : StaId)
  | psPoll (psta : StaId) (priority : ℕ)
  | trigger (psta : StaId)
  | wakeup (psta : StaId)
  | freeStainfo (psta : StaId)
  | driver (padapter : RtwAdapter) (staPs : StaId → StaPs)

namespace DozeEvent

def step (s : XmitPriv) : DozeEvent → Option XmitPriv
  | .alloc => some s.rtwAllocXmitframe.2
  | .setFrame f frame => if s.inHand f then some (s.setFrame f frame) else none
  | .enqueue f => if s.inHand f then some (s.xmitframeEnqueueForSleepingSta f).2 else none
  | .halEnqueue f => if s.inHand f then some (s.rtwHalXmitframeEnqueue f) else none
  | .dequeue => s.rtwDequeueXframe.map (·.2)
  | .free f => if s.inHand f then some (s.rtwFreeXmitframe f) else none
  | .stop psta => s.stopStaXmit psta
  | .psPoll psta priority => some (s.psPoll psta priority)
  | .trigger psta => some (s.xmitDeliveryEnabledFrames psta)
  | .wakeup psta => some (s.wakeupStaToXmit psta)
  | .freeStainfo psta => some (s.rtwFreeStainfo psta)
  | .driver padapter staPs =>
    if ∀ q, (padapter.staInfo q).sleepqLen = (s.info q).sleepqLen then
      some { s with padapter := padapter, staPs := staPs }
    else none

/-- The station is neither woken nor freed, nor is one with its identifier. -/
def Spares (p : StaId) (s : XmitPriv) : DozeEvent → Prop
  | .wakeup q | .freeStainfo q => (s.info q).aid ≠ (s.info p).aid
  | .driver padapter _ => (padapter.staInfo p).aid = (s.info p).aid ∧
      (padapter.staInfo p).inState WIFI_SLEEP_STATE = true ∧ padapter.stapriv.dzTest (s.info p).aid = true
  | _ => True

end DozeEvent

def DozeStep (s s' : XmitPriv) : Prop := ∃ event : DozeEvent, event.step s = some s'

def SparedStep (p : StaId) (s s' : XmitPriv) : Prop := ∃ event : DozeEvent, event.Spares p s ∧ event.step s = some s'

/-- The station sleeps, and its bit is set. -/
structure DozesAt (p : StaId) (n : ℕ) (s : XmitPriv) : Prop where
  aid : (s.info p).aid = n
  asleep : (s.info p).inState WIFI_SLEEP_STATE = true
  dz : s.dz.getLsbD n = true

/-- **What the bitmaps promise** of a station. -/
structure BitsCover (p : StaId) (s : XmitPriv) : Prop where
  stopped : ∀ s', s.stopStaXmit p = some s' → s'.padapter.stapriv.dzTest (s.info p).aid = true
  own : ∀ n, 1 ≤ n → n ≤ NUM_STA → n ≠ (s.info p).aid →
    StaPriv.bitOf n ≠ StaPriv.bitOf (s.info p).aid ∧ StaPriv.bitOf n &&& StaPriv.bitOf (s.info p).aid = 0
  notBmc : StaPriv.bitOf (s.info p).aid &&& StaPriv.bitOf 0 = 0
  queued : ∀ s' s'', s.stopStaXmit p = some s' → Relation.ReflTransGen (SparedStep p) s' s'' →
    s''.padapter.checkFwstate WIFI_AP_STATE = true → ∀ f,
      xmitSta s''.padapter (s''.frames f).attrib.toPktAttrib = some p → (s''.frames f).attrib.triggered = false →
      isMulticastEtherAddr (s''.frames f).attrib.ra = false →
        (s''.xmitframeEnqueueForSleepingSta f).1 = true ∧
          f ∈ (s''.xmitframeEnqueueForSleepingSta f).2.queue (.sleepQ p)
  woken : Cleared (s.info p).aid s.dz (s.wakeupStaToXmit p).dz ∧
    Cleared (s.info p).aid s.timBitmap (s.wakeupStaToXmit p).timBitmap
  freed : Cleared (s.info p).aid s.dz (s.rtwFreeStainfo p).dz ∧
    Cleared (s.info p).aid s.timBitmap (s.rtwFreeStainfo p).timBitmap

section Steps
variable {s s' : XmitPriv} {p q : StaId} {f : XmitFrameId} {n : ℕ}

theorem rtwAllocXmitframe_calm (h : Tallied s) : Calm s s.rtwAllocXmitframe.2 := by
  unfold rtwAllocXmitframe
  cases hqueue : s.queue .freeXmitQueue with
  | nil => exact .refl h
  | cons f rest =>
    have hfree : f ∈ s.queue .freeXmitQueue := hqueue ▸ List.mem_cons_self
    have htaken := h.take fun q hsleep => TxQueue.noConfusion (h.once.one f _ _ hfree hsleep)
    exact .of_padapter (htaken.of_same rfl fun _ => rfl) rfl rfl

theorem rtwDequeueXframe_calm (h : Tallied s) (hdeq : s.rtwDequeueXframe = some (f, s')) : Calm s s' := by
  obtain ⟨ac, -, hac⟩ := List.exists_of_findSome?_eq_some hdeq
  obtain ⟨m, -, hone⟩ := List.exists_of_findSome?_eq_some hac
  unfold dequeueOneXmitframe at hone
  split at hone
  · exact absurd hone.symm (Option.some_ne_none _)
  · rename_i g rest hhead
    dsimp only at hone
    rw [Option.some.injEq, Prod.mk.injEq] at hone
    obtain ⟨rfl, rfl⟩ := hone
    have hf : g ∈ s.queue (.staPending m) := hhead ▸ List.mem_cons_self
    have htaken := h.take fun q hsleep => TxQueue.noConfusion (h.once.one g _ _ hf hsleep)
    split
    · exact .of_padapter (htaken.of_same rfl fun _ => rfl) rfl rfl
    · exact .of_padapter (htaken.of_same rfl fun _ => rfl) rfl rfl

theorem DozesAt.drifts (h : DozesAt p n s) (hd : Drifts s s') : DozesAt p n s' where
  aid := (hd.same.aid p).trans h.aid
  asleep := (hd.same.inState p _).trans h.asleep
  dz := hd.dz n h.dz

theorem DozesAt.woken (h : DozesAt p n s) (hn : 1 ≤ n) (hw : Woken q s s') (hq : (s.info q).aid ≠ n) :
    DozesAt p n s' := by
  have hne : p ≠ q := fun he => hq (he ▸ h.aid)
  have hunmoved := hw.unmoved p hne
  refine ⟨hunmoved.aid.trans h.aid, hunmoved.asleep.trans h.asleep, ?_⟩
  rw [hw.dz n hn, h.dz, decide_eq_false hq]
  rfl

theorem noteAlive_unmoved (s : XmitPriv) (p q : StaId) : Unmoved p s (s.noteAlive q) := by
  unfold noteAlive
  dsimp only
  split
  · by_cases hp : p = q
    · subst hp
      refine ⟨?_, ?_⟩
      · rw [info_setInfo_self]
        rfl
      · rw [info_setInfo_self]
        exact ((s.info p).setExpireTo _).inState_toggleState (by decide)
    · exact ⟨by rw [info_setInfo_of_ne s hp], by rw [info_setInfo_of_ne s hp]⟩
  · exact ⟨rfl, rfl⟩

theorem psPoll_drifts (h : Tallied s) (priority : ℕ) : ∃ t, Unmoved p s t ∧ t.dz = s.dz ∧ Tallied t ∧
    Drifts t (s.psPoll q priority) := by
  unfold psPoll
  split
  · exact ⟨s, ⟨rfl, rfl⟩, rfl, h, (Calm.refl h).drifts⟩
  · have halive := noteAlive_tallied h q
    have hdz : (s.noteAlive q).dz = s.dz := by
      unfold noteAlive
      dsimp only
      split <;> rfl
    refine ⟨s.noteAlive q, noteAlive_unmoved s p q, hdz, halive, ?_⟩
    dsimp only
    split
    · exact pollSleepq_drifts halive q
    · exact (Calm.refl halive).drifts

theorem DozesAt.marked (h : DozesAt p n s) (q : StaId) : DozesAt p n (s.markSleeping q) := by
  have hdz : (s.markSleeping q).dz.getLsbD n = true := by
    show (s.dz ||| StaPriv.bitOf (s.info q).aid).getLsbD n = true
    rw [StaPriv.getLsbD_or_bitOf, h.dz]
    rfl
  by_cases hp : p = q
  · subst hp
    have hself : (s.markSleeping p).info p = (s.info p).setState WIFI_SLEEP_STATE := info_setInfo_self s p _
    refine ⟨?_, ?_, hdz⟩
    · rw [hself]
      exact h.aid
    · rw [hself]
      exact (s.info p).inState_setState_self (by decide)
  · have hother : (s.markSleeping q).info p = s.info p := info_setInfo_of_ne s hp _
    exact ⟨by rw [hother]; exact h.aid, by rw [hother]; exact h.asleep, hdz⟩

end Steps

/-! ## A step -/

section Run
variable {s s' : XmitPriv} {p : StaId} {n : ℕ}

/-- What every step keeps: the lengths, and of a station that dozes, unless it is not spared, that it does. -/
theorem DozeEvent.keeps {event : DozeEvent} (h : Tallied s) (hstep : event.step s = some s') :
    Tallied s' ∧ (1 ≤ n → event.Spares p s → DozesAt p n s → DozesAt p n s') := by
  have hdrifts : ∀ {t : XmitPriv}, Drifts s t →
      Tallied t ∧ (1 ≤ n → event.Spares p s → DozesAt p n s → DozesAt p n t) :=
    fun hd => ⟨hd.tallied, fun _ _ hdoze => hdoze.drifts hd⟩
  have hcall : ∀ {c : Bool} {t : XmitPriv}, (if c then some t else none) = some s' → c = true ∧ t = s' := by
    intro c t hif
    split at hif
    · rename_i hc
      exact ⟨hc, Option.some.inj hif⟩
    · exact absurd hif.symm (Option.some_ne_none s')
  cases event with
  | alloc => exact Option.some.inj hstep ▸ hdrifts (rtwAllocXmitframe_calm h).drifts
  | setFrame f frame =>
    obtain ⟨-, rfl⟩ := hcall hstep
    have hcalm : Calm s (s.setFrame f frame) := .of_padapter (h.of_same rfl fun _ => rfl) rfl rfl
    exact hdrifts hcalm.drifts
  | enqueue f =>
    obtain ⟨hc, rfl⟩ := hcall hstep
    exact hdrifts (enqueueForSleeping_drifts h fun _ => loose_of_inHand hc _)
  | halEnqueue f =>
    obtain ⟨hc, rfl⟩ := hcall hstep
    exact hdrifts (rtwHalXmitframeEnqueue_calm h (loose_of_inHand hc)).drifts
  | dequeue =>
    obtain ⟨⟨f, t⟩, hdeq, rfl⟩ := Option.map_eq_some_iff.mp hstep
    exact hdrifts (rtwDequeueXframe_calm h hdeq).drifts
  | free f =>
    obtain ⟨hc, rfl⟩ := hcall hstep
    exact hdrifts (rtwFreeXmitframe_calm h fun _ => loose_of_inHand hc _).drifts
  | stop q =>
    have hstopped := stopStaXmit_drifts h hstep
    exact ⟨hstopped.tallied, fun _ _ hdoze => (hdoze.marked q).drifts hstopped⟩
  | psPoll q priority =>
    obtain ⟨t, hunmoved, hdz, -, hpolled⟩ := psPoll_drifts (p := p) (q := q) h priority
    obtain rfl := Option.some.inj hstep
    refine ⟨hpolled.tallied, fun _ _ hdoze => DozesAt.drifts ?_ hpolled⟩
    exact ⟨hunmoved.aid.trans hdoze.aid, hunmoved.asleep.trans hdoze.asleep, hdz ▸ hdoze.dz⟩
  | trigger q => exact Option.some.inj hstep ▸ hdrifts (xmitDeliveryEnabledFrames_drifts h q)
  | wakeup q =>
    have hwoken := wakeupStaToXmit_woken (q := q) h
    obtain rfl := Option.some.inj hstep
    exact ⟨hwoken.tallied, fun hn hspares hdoze => hdoze.woken hn hwoken (hdoze.aid ▸ hspares)⟩
  | freeStainfo q =>
    have hfreed := rtwFreeStainfo_woken (q := q) h
    obtain rfl := Option.some.inj hstep
    exact ⟨hfreed.tallied, fun hn hspares hdoze => hdoze.woken hn hfreed (hdoze.aid ▸ hspares)⟩
  | driver padapter staPs =>
    change (if ∀ q, (padapter.staInfo q).sleepqLen = (s.info q).sleepqLen then
      some ({ s with padapter := padapter, staPs := staPs } : XmitPriv) else none) = some s' at hstep
    split at hstep
    · rename_i hlen
      obtain rfl := Option.some.inj hstep
      refine ⟨h.of_same rfl hlen, fun _ hspares hdoze => ?_⟩
      obtain ⟨haid, hasleep, hdz⟩ := hspares
      rw [StaPriv.dzTest_eq, hdoze.aid] at hdz
      exact ⟨haid.trans hdoze.aid, hasleep, hdz⟩
    · exact absurd hstep.symm (Option.some_ne_none s')

theorem dozesAt_run (hn : 1 ≤ n) (hrun : Relation.ReflTransGen (SparedStep p) s s') (h : Tallied s)
    (hdoze : DozesAt p n s) : DozesAt p n s' := by
  refine (LoopRun.run_invariant (I := fun t => Tallied t ∧ DozesAt p n t) ?_ hrun ⟨h, hdoze⟩).2
  rintro t t' ⟨ht, htdoze⟩ ⟨event, hspares, hstep⟩
  obtain ⟨ht', hkept⟩ := DozeEvent.keeps (p := p) (n := n) ht hstep
  exact ⟨ht', hkept hn hspares htdoze⟩

theorem stopStaXmit_dozesAt (h : Tallied s) (haid : (s.info p).aid < 16) (hstop : s.stopStaXmit p = some s') :
    DozesAt p (s.info p).aid s' := by
  have hself : (s.markSleeping p).info p = (s.info p).setState WIFI_SLEEP_STATE := info_setInfo_self s p _
  have hmarked : DozesAt p (s.info p).aid (s.markSleeping p) := by
    refine ⟨?_, ?_, ?_⟩
    · rw [hself]
      rfl
    · rw [hself]
      exact (s.info p).inState_setState_self (by decide)
    · show (s.dz ||| StaPriv.bitOf (s.info p).aid).getLsbD (s.info p).aid = true
      rw [StaPriv.getLsbD_or_bitOf, decide_eq_true haid, decide_eq_true rfl, Bool.and_true, Bool.or_true]
  exact hmarked.drifts (stopStaXmit_drifts h hstop)

theorem DozesAt.queued {f : XmitFrameId} (h : DozesAt p n s) (hap : s.padapter.checkFwstate WIFI_AP_STATE = true)
    (hsta : xmitSta s.padapter (s.frames f).attrib.toPktAttrib = some p)
    (htriggered : (s.frames f).attrib.triggered = false)
    (hra : isMulticastEtherAddr (s.frames f).attrib.ra = false) :
    (s.xmitframeEnqueueForSleepingSta f).1 = true ∧
      f ∈ (s.xmitframeEnqueueForSleepingSta f).2.queue (.sleepQ p) := by
  have hdz : s.padapter.stapriv.dzTest (s.info p).aid = true := by
    rw [h.aid, StaPriv.dzTest_eq]
    exact h.dz
  have hqueue : ((s.sleepqAdd f p).noteSleeping f p).queue = (s.sleepqAdd f p).queue :=
    congrArg TxSched.queue ((s.sleepqAdd f p).sched_noteSleeping f p).1
  unfold xmitframeEnqueueForSleepingSta
  dsimp only
  rw [if_pos hap, hsta]
  dsimp only
  rw [if_neg (by rw [htriggered]; exact Bool.false_ne_true), if_neg (by rw [hra]; exact Bool.false_ne_true),
    enqueueUnicast, if_pos (by rw [h.asleep, hdz]; rfl)]
  refine ⟨rfl, ?_⟩
  show f ∈ ((s.sleepqAdd f p).noteSleeping f p).queue (.sleepQ p)
  rw [hqueue]
  exact mem_addTail.mpr (Or.inr ⟨rfl, rfl⟩)

end Run

theorem bitOf_apart {n m : ℕ} (hm : m < 16) (h : n ≠ m) :
    StaPriv.bitOf n ≠ StaPriv.bitOf m ∧ StaPriv.bitOf n &&& StaPriv.bitOf m = 0 := by
  have hclear : (StaPriv.bitOf n).getLsbD m = false := by
    rw [StaPriv.getLsbD_bitOf, decide_eq_false h, Bool.and_false]
  have hset : (StaPriv.bitOf m).getLsbD m = true := by
    rw [StaPriv.getLsbD_bitOf, decide_eq_true hm, decide_eq_true rfl]
    rfl
  constructor
  · intro heq
    rw [heq, hset] at hclear
    exact Bool.noConfusion hclear
  · rw [← StaPriv.and_bitOf, bne_eq_false_iff_eq] at hclear
    exact hclear

theorem rtwInitXmitPriv_tallied (padapter : RtwAdapter) (hinit : ∀ q, (padapter.staInfo q).sleepqLen = 0) :
    Tallied (rtwInitXmitPriv padapter) :=
  ⟨(rtwInitXmitPriv_owned padapter).once, hinit⟩

/-- **The bitmaps cover a station** exactly when its identifier is one of the fifteen that have a bit. -/
theorem bitsCover_iff (padapter : RtwAdapter) (hinit : ∀ q, (padapter.staInfo q).sleepqLen = 0) (s : XmitPriv)
    (hrun : Relation.ReflTransGen DozeStep (rtwInitXmitPriv padapter) s) (p : StaId)
    (haid : 1 ≤ (s.info p).aid ∧ (s.info p).aid ≤ NUM_STA) : BitsCover p s ↔ (s.info p).aid ≤ 15 := by
  have htallied : Tallied s := by
    refine LoopRun.run_invariant (I := Tallied) ?_ hrun (rtwInitXmitPriv_tallied padapter hinit)
    rintro t t' ht ⟨event, hstep⟩
    exact (DozeEvent.keeps (p := p) (n := 1) ht hstep).1
  constructor
  · intro h
    by_contra hlarge
    obtain ⟨other, hother, hother', hne⟩ : ∃ other, 16 ≤ other ∧ other ≤ NUM_STA ∧ other ≠ (s.info p).aid := by
      by_cases h16 : (s.info p).aid = 16
      · exact ⟨17, by decide, by decide, by omega⟩
      · exact ⟨16, by decide, by decide, by omega⟩
    refine (h.own other (by omega) hother' hne).1 ?_
    have hnone : ∀ {k : ℕ}, 16 ≤ k → StaPriv.bitOf k = 0 := by
      intro k hk
      apply BitVec.eq_of_getLsbD_eq
      intro i _
      rw [StaPriv.getLsbD_bitOf, decide_eq_false (by omega), Bool.false_and]
      exact BitVec.getLsbD_zero.symm
    rw [hnone hother, hnone (by omega)]
  · intro hsmall
    have hdoze : ∀ {s'}, s.stopStaXmit p = some s' → DozesAt p (s.info p).aid s' :=
      fun hstop => stopStaXmit_dozesAt htallied (by omega) hstop
    have hwoken := wakeupStaToXmit_woken (q := p) htallied
    have hfreed := rtwFreeStainfo_woken (q := p) htallied
    refine ⟨fun s' hstop => ?_, fun n _ _ hn => bitOf_apart (by omega) hn, ?_, ?_, ⟨hwoken.dz, hwoken.tim⟩,
      ⟨hfreed.dz, hfreed.tim⟩⟩
    · rw [StaPriv.dzTest_eq]
      exact (hdoze hstop).dz
    · exact (bitOf_apart (by omega) (by omega)).2
    · intro s' s'' hstop hspared hap f hsta htriggered hra
      exact (dozesAt_run haid.1 hspared (stopStaXmit_drifts htallied hstop).tallied (hdoze hstop)).queued hap hsta
        htriggered hra

/-! ## An identifier without a bit -/

/-- An access point whose sixteenth station sleeps. -/
def sixteenthCell : RtwAdapter where
  fwState := WIFI_AP_STATE
  stapriv :=
    { staInfo := fun psta =>
        if psta = 0 then { hwaddr := bcAddr, state := _FW_LINKED }
        else { hwaddr := #v[2, 0, 0, 0, 0, 16], state := _FW_LINKED, aid := 16 }
      staHash := fun _ => [0, 1] }

set_option maxRecDepth 20000 in
theorem sixteenth_stopped : ∃ s, (rtwInitXmitPriv sixteenthCell).stopStaXmit 1 = some s ∧
    s.padapter.stapriv.dzTest 16 = false :=
  ⟨_, rfl, rfl⟩

/-- Its bit is lost in the sixteen of `sta_dz_bitmap`. -/
theorem bitsCover_sixteenth : ¬ ∀ (padapter : RtwAdapter), (∀ q, (padapter.staInfo q).sleepqLen = 0) →
    ∀ s, Relation.ReflTransGen DozeStep (rtwInitXmitPriv padapter) s → ∀ p,
      1 ≤ (s.info p).aid ∧ (s.info p).aid ≤ NUM_STA → BitsCover p s := by
  intro hall
  obtain ⟨s, hstop, hlost⟩ := sixteenth_stopped
  have hset := (hall sixteenthCell (by decide) _ .refl 1 (by decide)).stopped s hstop
  exact Bool.false_ne_true (hlost.symm.trans hset)

theorem bitsCover_iff_first : BitsCover 1 (rtwInitXmitPriv cellAdapter) :=
  (bitsCover_iff cellAdapter (by decide) _ .refl 1 (by decide)).mpr (by decide)

end XmitPriv

end Rtl8723au
