import Rtl8723au.Ap.Table
import Rtl8723au.Xmit.SchedulerRuns
import Rtl8723au.Xmit.SleepSteps

/-! The bits of `sta_dz_bitmap` and `tim_bitmap`: which functions move them, and what a station that has
none is sent while it sleeps. -/
namespace Rtl8723au
open Intrusive
set_option autoImplicit false

namespace XmitPriv

/-! ## The lengths of all the queues -/

/-- Every `sleepq_len` is the length of its queue. -/
structure Tallied (s : XmitPriv) : Prop where
  once : Once s.queue
  len : ∀ q, (s.info q).sleepqLen = (s.queue (.sleepQ q)).length

/-- The step keeps the lengths, and moves neither a station nor a bit. -/
structure Calm (s s' : XmitPriv) : Prop where
  tallied : Tallied s'
  same : SameSta s.padapter s'.padapter
  dz : s'.dz = s.dz
  tim : s'.timBitmap = s.timBitmap

section Calm
variable {s s' s'' : XmitPriv} {f : XmitFrameId} {q : StaId}

theorem Tallied.of_same (h : Tallied s) (hqueue : s'.queue = s.queue)
    (hlen : ∀ q, (s'.info q).sleepqLen = (s.info q).sleepqLen) : Tallied s' where
  once := hqueue ▸ h.once
  len q := by rw [hlen, hqueue, h.len]

theorem Tallied.queue_le (h : Tallied s) (q : StaId) : (s.queue (.sleepQ q)).length ≤ 256 := by
  simpa using (h.once.nodup (.sleepQ q)).length_le_card

theorem Calm.refl (h : Tallied s) : Calm s s := ⟨h, SameSta.refl _, rfl, rfl⟩

theorem Calm.trans (h : Calm s s') (h' : Calm s' s'') : Calm s s'' :=
  ⟨h'.tallied, h.same.trans h'.same, h'.dz.trans h.dz, h'.tim.trans h.tim⟩

theorem Calm.of_padapter (h : Tallied s') (hpadapter : s'.padapter = s.padapter)
    (htim : s'.timBitmap = s.timBitmap) : Calm s s' := by
  refine ⟨h, ?_, ?_, htim⟩
  · rw [hpadapter]
    exact SameSta.refl _
  · show s'.padapter.stapriv.staDzBitmap = s.padapter.stapriv.staDzBitmap
    rw [hpadapter]

theorem Tallied.take (h : Tallied s) (hf : ∀ q, f ∉ s.queue (.sleepQ q)) : Tallied (s.listDel f) where
  once := h.once.delInit f
  len q := by
    show (s.info q).sleepqLen = (delInit s.queue f (.sleepQ q)).length
    rw [delInit_of_not_mem (hf q)]
    exact h.len q

theorem Tallied.add {n : TxQueue} (h : Tallied s) (hf : Loose s.queue f) (hn : ∀ q, n ≠ .sleepQ q) :
    Tallied (s.listAdd n f) where
  once := h.once.addTail hf
  len q := by
    show (s.info q).sleepqLen = (addTail s.queue n f (.sleepQ q)).length
    rw [addTail_of_ne _ _ (hn q).symm]
    exact h.len q

theorem Tallied.setLen {t : XmitPriv} {n : ℕ} (honce : Once t.queue) (hn : n = (t.queue (.sleepQ q)).length)
    (hother : ∀ r ≠ q, (t.info r).sleepqLen = (t.queue (.sleepQ r)).length) : Tallied (t.setLen q n) where
  once := honce
  len r := by
    unfold XmitPriv.setLen
    by_cases hr : r = q
    · subst hr
      rw [info_setInfo_self]
      exact hn
    · rw [info_setInfo_of_ne t hr]
      exact hother r hr

theorem leave_calm (h : Tallied s) (hf : f ∈ s.queue (.sleepQ q)) : Calm s ((s.listDel f).lenDec q) where
  tallied := by
    have hlen := length_delInit hf
    have hle := h.queue_le q
    refine Tallied.setLen (t := (s.listDel f).noteWrap q (s.info q).sleepqLen) (h.once.delInit f) ?_ fun r hr => ?_
    · show uint ((s.info q).sleepqLen - 1) = (delInit s.queue f (.sleepQ q)).length
      rw [h.len q, ← hlen, Nat.cast_add, Nat.cast_one, add_sub_cancel_right]
      exact uint_natCast _ (by omega)
    · show (s.info r).sleepqLen = (delInit s.queue f (.sleepQ r)).length
      rw [h.once.delInit_other hf fun he => hr (TxQueue.sleepQ.inj he)]
      exact h.len r
  same := SameSta.setLen ((s.listDel f).noteWrap q (s.info q).sleepqLen) q _
  dz := rfl
  tim := rfl

theorem acLenDec_calm (h : Tallied s) (q : StaId) : Calm s (s.acLenDec q) :=
  .of_padapter (h.of_same rfl fun _ => rfl) rfl rfl

theorem rtwXmitClassifier_calm (h : Tallied s) (hf : Loose s.queue f) : Calm s (s.rtwXmitClassifier f).2 := by
  unfold rtwXmitClassifier
  dsimp only
  cases xmitSta s.padapter (s.frames f).attrib.toPktAttrib with
  | none => exact .refl h
  | some psta =>
    dsimp only
    have hlinked : ∀ n, (s.txPendingAdd n).queue = s.queue ∧ (s.txPendingAdd n).padapter = s.padapter ∧
        (s.txPendingAdd n).timBitmap = s.timBitmap := by
      intro n
      unfold txPendingAdd
      split <;> exact ⟨rfl, rfl, rfl⟩
    obtain ⟨hqueue, hpadapter, htim⟩ := hlinked (psta, acOf (s.frames f).attrib.priority)
    generalize s.txPendingAdd (psta, acOf (s.frames f).attrib.priority) = t at hqueue hpadapter htim ⊢
    have ht : Tallied t := h.of_same hqueue fun q => by rw [info, info, hpadapter]
    have hadded : Tallied (t.listAdd (.staPending (psta, acOf (s.frames f).attrib.priority)) f) :=
      ht.add (hqueue ▸ hf) fun _ => TxQueue.noConfusion
    exact .of_padapter (hadded.of_same rfl fun _ => rfl) hpadapter htim

theorem rtwFreeXmitframe_calm (h : Tallied s) (hf : ∀ q, f ∉ s.queue (.sleepQ q)) :
    Calm s (s.rtwFreeXmitframe f) := by
  have htaken := h.take hf
  have hadded : Tallied ((s.listDel f).listAdd .freeXmitQueue f) :=
    htaken.add (h.once.loose_delInit f) fun _ => TxQueue.noConfusion
  exact .of_padapter (hadded.of_same rfl fun _ => rfl) rfl rfl

theorem rtwHalXmitframeEnqueue_calm (h : Tallied s) (hf : Loose s.queue f) :
    Calm s (s.rtwHalXmitframeEnqueue f) := by
  have hcalm := rtwXmitClassifier_calm h hf
  have hcases := s.rtwXmitClassifier_cases f
  unfold rtwHalXmitframeEnqueue
  generalize s.rtwXmitClassifier f = r at hcalm hcases ⊢
  obtain ⟨taken, t⟩ := r
  cases taken with
  | true => exact hcalm
  | false =>
    rcases hcases with hsame | ⟨n, s', hsome, -⟩
    · rw [(Prod.mk.inj hsame).2]
      exact rtwFreeXmitframe_calm h fun _ => hf _
    · exact absurd (Prod.mk.inj hsome).1 Bool.false_ne_true

theorem deliver_calm (h : Tallied s) (hf : Loose s.queue f) (a : TxAttrib) : Calm s (s.deliver f a) := by
  have hmarked : Calm s (s.setAttrib f { a with triggered := true }) :=
    .of_padapter (h.of_same rfl fun _ => rfl) rfl rfl
  exact hmarked.trans (rtwHalXmitframeEnqueue_calm hmarked.tallied hf)

theorem deliver_sleepQ (h : Once s.queue) (hf : Loose s.queue f) (a : TxAttrib) (q : StaId) :
    (s.deliver f a).queue (.sleepQ q) = s.queue (.sleepQ q) := by
  have haside : Aside q (s.setAttrib f { a with triggered := true }) (s.deliver f a) :=
    .rtwHalXmitframeEnqueue hf h
  exact haside.queue

/-! ## The loops -/

theorem wakeupTurn_calm (h : Tallied s) (hf : f ∈ s.queue (.sleepQ q)) : Calm s (wakeupTurn q s f) := by
  have hleft := leave_calm h hf
  have hloose : Loose (delInit s.queue f) f := h.once.loose_delInit f
  unfold wakeupTurn
  dsimp only
  split
  · have hcounted := hleft.trans (acLenDec_calm hleft.tallied q)
    exact hcounted.trans (deliver_calm hcounted.tallied hloose _)
  · exact hleft.trans (deliver_calm hleft.tallied hloose _)

theorem wakeupBmcTurn_calm (h : Tallied s) (hf : f ∈ s.queue (.sleepQ q)) : Calm s (wakeupBmcTurn q s f) := by
  have hleft := leave_calm h hf
  exact hleft.trans (deliver_calm hleft.tallied (h.once.loose_delInit f) _)

/-- A loop over a `sleep_q`. -/
theorem sleepqLoop_calm (turn : XmitPriv → XmitFrameId → XmitPriv) (h : Tallied s)
    (hturn : ∀ t f, Tallied t → f ∈ t.queue (.sleepQ q) → Calm t (turn t f) ∧ Only f t (turn t f)) :
    Calm s ((s.queue (.sleepQ q)).foldl turn s) := by
  refine foldl_only (P := Calm s) turn (.sleepQ q) ?_ _ s (h.once.nodup _) (fun _ hf => hf) (.refl h)
  intro t f ht hf
  obtain ⟨hcalm, honly⟩ := hturn t f ht.tallied hf
  exact ⟨ht.trans hcalm, honly⟩

/-- The loop of `wakeup_sta_to_xmit` empties the queue. -/
theorem wakeupLoop_calm (l : List XmitFrameId) (s : XmitPriv) (h : Tallied s) (hl : s.queue (.sleepQ q) = l) :
    Calm s (l.foldl (wakeupTurn q) s) ∧ (l.foldl (wakeupTurn q) s).queue (.sleepQ q) = [] := by
  induction l generalizing s with
  | nil => exact ⟨.refl h, hl⟩
  | cons f rest ih =>
    have hturn := wakeupTurn_calm h (f := f) (hl ▸ List.mem_cons_self)
    have hloose : Loose (delInit s.queue f) f := h.once.loose_delInit f
    have hqueue : (wakeupTurn q s f).queue (.sleepQ q) = rest := by
      rw [← delInit_head hl]
      unfold wakeupTurn
      dsimp only
      split
      · exact deliver_sleepQ (s := ((s.listDel f).lenDec q).acLenDec q) (h.once.delInit f) hloose _ q
      · exact deliver_sleepQ (s := (s.listDel f).lenDec q) (h.once.delInit f) hloose _ q
    obtain ⟨hcalm, hempty⟩ := ih (wakeupTurn q s f) hturn.tallied hqueue
    exact ⟨hturn.trans hcalm, hempty⟩

end Calm

/-! ## Clearing bits -/

/-- Of the bits of stations, that of the identifier `n` is cleared and no other. -/
def Cleared (n : ℕ) (b b' : BitVec 16) : Prop := ∀ i, 1 ≤ i → b'.getLsbD i = (b.getLsbD i && !decide (n = i))

theorem cleared_bitOf (n : ℕ) (b : BitVec 16) : Cleared n b (b &&& ~~~StaPriv.bitOf n) :=
  fun i _ => StaPriv.getLsbD_clear_bitOf b n i

theorem cleared_of_ge {n : ℕ} (hn : 16 ≤ n) (b : BitVec 16) : Cleared n b b := by
  intro i _
  by_cases hi : i < 16
  · rw [decide_eq_false (by omega), Bool.not_false, Bool.and_true]
  · rw [BitVec.getLsbD_of_ge b i (by omega)]
    rfl

theorem Cleared.zero {n : ℕ} {b b' : BitVec 16} (h : Cleared n b b') :
    Cleared n b (b' &&& ~~~StaPriv.bitOf 0) := by
  intro i hi
  rw [StaPriv.getLsbD_clear_bitOf, decide_eq_false (by omega), Bool.not_false, Bool.and_true]
  exact h i hi

/-- The station is left by the step as it was, but for its `sleep_q`. -/
structure Unmoved (p : StaId) (s s' : XmitPriv) : Prop where
  aid : (s'.info p).aid = (s.info p).aid
  asleep : (s'.info p).inState WIFI_SLEEP_STATE = (s.info p).inState WIFI_SLEEP_STATE

section Clear
variable {s s' : XmitPriv} {p q : StaId}

theorem Unmoved.of_same (h : SameSta s.padapter s'.padapter) (p : StaId) : Unmoved p s s' :=
  ⟨h.aid p, h.inState p _⟩

theorem Unmoved.trans {s'' : XmitPriv} (h : Unmoved p s s') (h' : Unmoved p s' s'') : Unmoved p s s'' :=
  ⟨h'.aid.trans h.aid, h'.asleep.trans h.asleep⟩

/-- What waking a station moves. -/
structure Woken (q : StaId) (s s' : XmitPriv) : Prop where
  tallied : Tallied s'
  dz : Cleared (s.info q).aid s.dz s'.dz
  tim : Cleared (s.info q).aid s.timBitmap s'.timBitmap
  unmoved : ∀ p ≠ q, Unmoved p s s'

theorem wakeupUnicast_woken (h : Tallied s) : Woken q s (s.wakeupUnicast q) := by
  obtain ⟨hcalm, hempty⟩ := wakeupLoop_calm _ s h (rfl : s.queue (.sleepQ q) = _)
  unfold wakeupUnicast
  dsimp only
  generalize (s.queue (.sleepQ q)).foldl (wakeupTurn q) s = t at hcalm hempty ⊢
  have hlen : (t.info q).sleepqLen = 0 := by
    rw [hcalm.tallied.len, hempty]
    rfl
  have haid : (t.info q).aid = (s.info q).aid := hcalm.same.aid q
  have hwoken : (wakeupInfo t.padapter.stapriv.expireTo (t.info q)).sleepqLen = 0 := by
    unfold wakeupInfo
    dsimp only
    split <;> split <;> rfl
  rw [if_pos hlen]
  refine ⟨⟨hcalm.tallied.once, fun r => ?_⟩, ?_, ?_, fun p hp => ?_⟩
  · show ((t.setInfo q (wakeupInfo t.padapter.stapriv.expireTo (t.info q))).info r).sleepqLen =
      (t.queue (.sleepQ r)).length
    by_cases hr : r = q
    · subst hr
      rw [info_setInfo_self, hempty, hwoken]
      rfl
    · rw [info_setInfo_of_ne t hr]
      exact hcalm.tallied.len r
  · rw [← hcalm.dz, ← haid]
    exact cleared_bitOf _ _
  · rw [← hcalm.tim, ← haid]
    exact cleared_bitOf _ _
  · have hinfo : (t.wakeSta q).info p = t.info p := info_setInfo_of_ne t hp _
    exact (Unmoved.of_same hcalm.same p).trans ⟨by rw [hinfo], by rw [hinfo]⟩

theorem wakeupBmc_quiet (h : Tallied s) : Tallied s.wakeupBmc ∧ SameSta s.padapter s.wakeupBmc.padapter ∧
    (∀ n b, Cleared n b s.dz → Cleared n b s.wakeupBmc.dz) ∧
    ∀ n b, Cleared n b s.timBitmap → Cleared n b s.wakeupBmc.timBitmap := by
  unfold wakeupBmc
  cases rtwGetBcmcStainfo s.padapter.stapriv with
  | none => exact ⟨h, SameSta.refl _, fun _ _ hc => hc, fun _ _ hc => hc⟩
  | some r =>
    dsimp only
    split
    · have hloop : Calm s ((s.queue (.sleepQ r)).foldl (wakeupBmcTurn r) s) := by
        refine sleepqLoop_calm (wakeupBmcTurn r) h fun t f ht hf => ⟨wakeupBmcTurn_calm ht hf, ?_⟩
        have hturn : Turn f t (wakeupBmcTurn r t f) := t.deliver_turn _ ht.once rfl rfl
        exact hturn.only
      generalize (s.queue (.sleepQ r)).foldl (wakeupBmcTurn r) s = t at hloop ⊢
      split
      · refine ⟨hloop.tallied.of_same rfl fun _ => rfl, ?_, fun n b hc => ?_, fun n b hc => ?_⟩
        · exact ⟨hloop.same.fwState, hloop.same.staHash, hloop.same.hwaddr, hloop.same.state, hloop.same.aid⟩
        · exact (hloop.dz ▸ hc : Cleared n b t.dz).zero
        · exact (hloop.tim ▸ hc : Cleared n b t.timBitmap).zero
      · exact ⟨hloop.tallied, hloop.same, fun n b hc => hloop.dz ▸ hc, fun n b hc => hloop.tim ▸ hc⟩
    · exact ⟨h, SameSta.refl _, fun _ _ hc => hc, fun _ _ hc => hc⟩

theorem wakeupStaToXmit_woken (h : Tallied s) : Woken q s (s.wakeupStaToXmit q) := by
  have hwoken := wakeupUnicast_woken (q := q) h
  obtain ⟨htallied, hsame, hdz, htim⟩ := wakeupBmc_quiet hwoken.tallied
  exact ⟨htallied, hdz _ _ hwoken.dz, htim _ _ hwoken.tim, fun p hp =>
    (hwoken.unmoved p hp).trans (.of_same hsame p)⟩

end Clear

/-! ## Freeing a station -/

/-- Nothing but the free queue and the queue itself is touched when a queue is freed. -/
structure QueueFreed (n : TxQueue) (s s' : XmitPriv) : Prop where
  once : Once s'.queue
  empty : s'.queue n = []
  others : ∀ m ≠ n, m ≠ .freeXmitQueue → s'.queue m = s.queue m
  padapter : s'.padapter = s.padapter
  tim : s'.timBitmap = s.timBitmap

theorem freeLoop_freed {n : TxQueue} (hn : n ≠ .freeXmitQueue) (l : List XmitFrameId) (s : XmitPriv)
    (honce : Once s.queue) (hl : s.queue n = l) : QueueFreed n s (l.foldl rtwFreeXmitframe s) := by
  induction l generalizing s with
  | nil => exact ⟨honce, hl, fun _ _ _ => rfl, rfl, rfl⟩
  | cons f rest ih =>
    have hf : f ∈ s.queue n := hl ▸ List.mem_cons_self
    have hqueue : (s.rtwFreeXmitframe f).queue = moveTail s.queue .freeXmitQueue f :=
      congrArg TxSched.queue (s.rtwFreeXmitframe_sched f)
    have hstay : ∀ m ≠ .freeXmitQueue, moveTail s.queue .freeXmitQueue f m = delInit s.queue f m :=
      fun m hm => addTail_of_ne _ _ hm
    have hrest := ih (s.rtwFreeXmitframe f) (hqueue ▸ honce.moveTail _ f)
      (by rw [hqueue, hstay n hn, delInit_head hl])
    refine ⟨hrest.once, hrest.empty, fun m hm hfree => ?_, hrest.padapter, hrest.tim⟩
    rw [List.foldl_cons, hrest.others m hm hfree, hqueue, hstay m hfree]
    exact honce.delInit_other hf hm

theorem freeServq_freed (s : XmitPriv) (n : TxServq) (h : Once s.queue) :
    QueueFreed (.staPending n) s (s.freeServq n) := by
  have hfreed := freeLoop_freed (n := .staPending n) TxQueue.noConfusion _ s h rfl
  exact ⟨hfreed.once, hfreed.empty, hfreed.others, hfreed.padapter, hfreed.tim⟩

section Free
variable {s : XmitPriv} {p q : StaId}

/-- What `rtw_free_stainfo` leaves of the queues. -/
structure QueuesFreed (q : StaId) (s s' : XmitPriv) : Prop where
  once : Once s'.queue
  sleepQ : s'.queue (.sleepQ q) = []
  sleepQs : ∀ r ≠ q, s'.queue (.sleepQ r) = s.queue (.sleepQ r)
  staPending : ∀ ac, s'.queue (.staPending (q, ac)) = []
  padapter : s'.padapter = s.padapter
  tim : s'.timBitmap = s.timBitmap

theorem freeQueues_freed (h : Once s.queue) : QueuesFreed q s (s.freeQueues q) := by
  have hsleep := freeLoop_freed (n := .sleepQ q) TxQueue.noConfusion _ s h rfl
  have hvo := freeServq_freed (s.rtwFreeXmitframeQueue (.sleepQ q)) (q, .vo) hsleep.once
  have hvi := freeServq_freed _ (q, .vi) hvo.once
  have hbe := freeServq_freed _ (q, .be) hvi.once
  have hbk := freeServq_freed _ (q, .bk) hbe.once
  have hstay : ∀ r, (s.freeQueues q).queue (.sleepQ r) = (s.rtwFreeXmitframeQueue (.sleepQ q)).queue (.sleepQ r) := by
    intro r
    exact (hbk.others _ TxQueue.noConfusion TxQueue.noConfusion).trans
      ((hbe.others _ TxQueue.noConfusion TxQueue.noConfusion).trans
        ((hvi.others _ TxQueue.noConfusion TxQueue.noConfusion).trans
          (hvo.others _ TxQueue.noConfusion TxQueue.noConfusion)))
  have hdistinct : ∀ {ac ac' : Ac}, ac ≠ ac' → TxQueue.staPending (q, ac) ≠ TxQueue.staPending (q, ac') := by
    intro ac ac' hac heq
    exact hac (Prod.mk.inj (TxQueue.staPending.inj heq)).2
  refine ⟨hbk.once, (hstay q).trans hsleep.empty, fun r hr => ?_, fun ac => ?_, ?_, ?_⟩
  · exact (hstay r).trans (hsleep.others _ (fun he => hr (TxQueue.sleepQ.inj he)) TxQueue.noConfusion)
  · cases ac with
    | vo =>
      exact (hbk.others _ (hdistinct Ac.noConfusion) TxQueue.noConfusion).trans
        ((hbe.others _ (hdistinct Ac.noConfusion) TxQueue.noConfusion).trans
          ((hvi.others _ (hdistinct Ac.noConfusion) TxQueue.noConfusion).trans hvo.empty))
    | vi =>
      exact (hbk.others _ (hdistinct Ac.noConfusion) TxQueue.noConfusion).trans
        ((hbe.others _ (hdistinct Ac.noConfusion) TxQueue.noConfusion).trans hvi.empty)
    | be => exact (hbk.others _ (hdistinct Ac.noConfusion) TxQueue.noConfusion).trans hbe.empty
    | bk => exact hbk.empty
  · exact hbk.padapter.trans (hbe.padapter.trans (hvi.padapter.trans (hvo.padapter.trans hsleep.padapter)))
  · exact hbk.tim.trans (hbe.tim.trans (hvi.tim.trans (hvo.tim.trans hsleep.tim)))

theorem rtwFreeStainfo_cleared (sp : StaPriv) (q : StaId) :
    Cleared (sp.staInfo q).aid sp.staDzBitmap (Rtl8723au.rtwFreeStainfo sp q).staDzBitmap := by
  have hunlinked : (unlinkStainfo sp q).staDzBitmap = sp.staDzBitmap := by
    unfold unlinkStainfo StaPriv.authListRemove
    split <;> rfl
  unfold Rtl8723au.rtwFreeStainfo
  split
  · rw [hunlinked]
    exact cleared_of_ge (by omega) _
  · have hreleased : (releaseAid (unlinkStainfo sp q) q (sp.staInfo q).aid).staDzBitmap =
        sp.staDzBitmap &&& ~~~StaPriv.bitOf (sp.staInfo q).aid := by
      rw [← hunlinked]
      unfold releaseAid
      split <;> rfl
    show Cleared _ _ (releaseAid (unlinkStainfo sp q) q (sp.staInfo q).aid).staDzBitmap
    rw [hreleased]
    exact cleared_bitOf _ _

theorem rtwFreeStainfo_woken (h : Tallied s) : Woken q s (s.rtwFreeStainfo q) := by
  have hfreed := freeQueues_freed (q := q) h.once
  have htim : (s.rtwFreeStainfo q).timBitmap = if 31 < (s.info q).aid then s.timBitmap
      else s.timBitmap &&& ~~~StaPriv.bitOf (s.info q).aid := by
    rw [← hfreed.tim]
    unfold XmitPriv.rtwFreeStainfo
    dsimp only
    generalize s.freeQueues q = freed
    split
    · rfl
    · rfl
  have hrest : (s.rtwFreeStainfo q).queue = (s.freeQueues q).queue ∧
      (s.rtwFreeStainfo q).padapter.stapriv = Rtl8723au.rtwFreeStainfo s.padapter.stapriv q := by
    rw [← hfreed.padapter]
    unfold XmitPriv.rtwFreeStainfo
    dsimp only
    generalize s.freeQueues q = freed
    split
    · exact ⟨rfl, rfl⟩
    · exact ⟨rfl, rfl⟩
  have hinfo : ∀ r, (s.rtwFreeStainfo q).info r = (Rtl8723au.rtwFreeStainfo s.padapter.stapriv q).staInfo r := by
    intro r
    rw [← hrest.2]
    rfl
  refine ⟨⟨hrest.1 ▸ hfreed.once, fun r => ?_⟩, ?_, ?_, fun p hp => ?_⟩
  · rw [hinfo, hrest.1]
    by_cases hr : r = q
    · subst hr
      obtain ⟨aid, hself⟩ := rtwFreeStainfo_staInfo s.padapter.stapriv r
      rw [hself, Function.update_self, hfreed.sleepQ]
      rfl
    · rw [rtwFreeStainfo_info_other s.padapter.stapriv q r hr, hfreed.sleepQs r hr]
      exact h.len r
  · show Cleared _ _ (s.rtwFreeStainfo q).padapter.stapriv.staDzBitmap
    rw [hrest.2]
    exact rtwFreeStainfo_cleared _ q
  · rw [htim]
    split
    · exact cleared_of_ge (by omega) _
    · exact cleared_bitOf _ _
  · have hother := (hinfo p).trans (rtwFreeStainfo_info_other s.padapter.stapriv q p hp)
    exact ⟨congrArg StaInfo.aid hother, congrArg (StaInfo.inState · WIFI_SLEEP_STATE) hother⟩

end Free

/-! ## Falling asleep -/

/-- The step keeps the lengths, the stations, and the bits that are set in `sta_dz_bitmap`. -/
structure Drifts (s s' : XmitPriv) : Prop where
  tallied : Tallied s'
  same : SameSta s.padapter s'.padapter
  dz : ∀ i, s.dz.getLsbD i = true → s'.dz.getLsbD i = true

section Drift
variable {s s' : XmitPriv} {f : XmitFrameId} {q : StaId}

theorem Calm.drifts (h : Calm s s') : Drifts s s' := ⟨h.tallied, h.same, fun _ hi => h.dz ▸ hi⟩

theorem Drifts.trans {s'' : XmitPriv} (h : Drifts s s') (h' : Drifts s' s'') : Drifts s s'' :=
  ⟨h'.tallied, h.same.trans h'.same, fun i hi => h'.dz i (h.dz i hi)⟩

theorem sleepqAdd_calm (h : Tallied s) (hf : ∀ r, f ∉ s.queue (.sleepQ r)) : Calm s (s.sleepqAdd f q) where
  tallied := by
    have hle := h.queue_le q
    refine Tallied.setLen (t := (s.listDel f).listAdd (.sleepQ q) f) (h.once.moveTail _ f) ?_ fun r hr => ?_
    · show uint ((s.info q).sleepqLen + 1) = (addTail (delInit s.queue f) (.sleepQ q) f (.sleepQ q)).length
      rw [addTail_self, delInit_of_not_mem (hf q), List.length_append, h.len q]
      exact uint_natCast ((s.queue (.sleepQ q)).length + 1) (by omega)
    · show (s.info r).sleepqLen = (addTail (delInit s.queue f) (.sleepQ q) f (.sleepQ r)).length
      rw [addTail_of_ne _ _ fun he => hr (TxQueue.sleepQ.inj he), delInit_of_not_mem (hf r)]
      exact h.len r
  same := SameSta.setLen ((s.listDel f).listAdd (.sleepQ q) f) q _
  dz := rfl
  tim := rfl

theorem noteSleeping_drifts (h : Tallied s) : Drifts s (s.noteSleeping f q) := by
  have hsame : ∀ t : XmitPriv, t.queue = s.queue → t.padapter = s.padapter → Drifts s t := by
    intro t hqueue hpadapter
    have hinfo : ∀ r, (t.info r).sleepqLen = (s.info r).sleepqLen := fun r => by rw [info, info, hpadapter]
    refine ⟨h.of_same hqueue hinfo, hpadapter ▸ SameSta.refl _, fun i hi => ?_⟩
    rw [dz, hpadapter]
    exact hi
  unfold noteSleeping
  dsimp only
  split
  · split <;> exact hsame _ rfl rfl
  · split <;> exact hsame _ rfl rfl

theorem enqueueForSleeping_drifts (h : Tallied s) (hf : ∀ r, f ∉ s.queue (.sleepQ r)) :
    Drifts s (s.xmitframeEnqueueForSleepingSta f).2 := by
  have houtcome := s.xmitframeEnqueueForSleepingSta_outcome f
  generalize s.xmitframeEnqueueForSleepingSta f = r at houtcome
  cases houtcome with
  | awake => exact (Calm.refl h).drifts
  | highQueue => exact ⟨h.of_same rfl fun _ => rfl, SameSta.refl _, fun _ hi => hi⟩
  | bmc r =>
    have hadded := sleepqAdd_calm (q := r) h hf
    have hsame := hadded.same
    refine ⟨hadded.tallied.of_same rfl fun _ => rfl, ?_, fun i hi => ?_⟩
    · exact ⟨hsame.fwState, hsame.staHash, hsame.hwaddr, hsame.state, hsame.aid⟩
    · show (s.dz ||| StaPriv.bitOf 0).getLsbD i = true
      rw [StaPriv.getLsbD_or_bitOf, hi]
      rfl
  | unicast r =>
    have hadded := sleepqAdd_calm (q := r) h hf
    exact hadded.drifts.trans (noteSleeping_drifts hadded.tallied)

theorem stopServq_drifts (q : StaId) (ac : Ac) (h : Tallied s) : Drifts s (stopServq q s ac) := by
  have hloop : Drifts s ((s.queue (.staPending (q, ac))).foldl (sleepTurn q) s) := by
    refine foldl_only (P := Drifts s) (sleepTurn q) (.staPending (q, ac)) ?_ _ s (h.once.nodup _)
      (fun _ hf => hf) (Calm.refl h).drifts
    intro t f ht hf
    refine ⟨ht.trans ?_, (t.sleepTurn_turn q f).only⟩
    have hstep := enqueueForSleeping_drifts (f := f) ht.tallied fun r hsleep =>
      TxQueue.noConfusion (ht.tallied.once.one f _ _ hf hsleep)
    unfold sleepTurn
    generalize t.xmitframeEnqueueForSleepingSta f = r at hstep ⊢
    obtain ⟨taken, t'⟩ := r
    cases taken with
    | true => exact ⟨hstep.tallied.of_same rfl fun _ => rfl, hstep.same, hstep.dz⟩
    | false => exact hstep
  exact ⟨hloop.tallied.of_same rfl fun _ => rfl, hloop.same, hloop.dz⟩

/-- `stop_sta_xmit` marks the station, and then drifts. -/
theorem stopStaXmit_drifts (h : Tallied s) (hstop : s.stopStaXmit q = some s') : Drifts (s.markSleeping q) s' := by
  obtain ⟨pstaBmc, -, rfl⟩ := Option.map_eq_some_iff.mp hstop
  have hmarked : Tallied (s.markSleeping q) := by
    refine h.of_same rfl fun r => ?_
    show ((s.setInfo q ((s.info q).setState WIFI_SLEEP_STATE)).info r).sleepqLen = _
    by_cases hr : r = q
    · subst hr
      rw [info_setInfo_self]
      rfl
    · rw [info_setInfo_of_ne s hr]
  have hvo := stopServq_drifts q .vo hmarked
  have hvi := stopServq_drifts q .vi hvo.tallied
  have hbe := stopServq_drifts q .be hvi.tallied
  have hbk := stopServq_drifts q .bk hbe.tallied
  exact (((hvo.trans hvi).trans hbe).trans hbk).trans (stopServq_drifts pstaBmc .be hbk.tallied)

/-! ## Polls and triggers -/

theorem noteAlive_tallied (h : Tallied s) (q : StaId) : Tallied (s.noteAlive q) := by
  unfold noteAlive
  dsimp only
  split
  · refine h.of_same rfl fun r => ?_
    by_cases hr : r = q
    · subst hr
      rw [info_setInfo_self]
      rfl
    · rw [info_setInfo_of_ne s hr]
  · exact h

theorem pollSleepq_drifts (h : Tallied s) (q : StaId) : Drifts s (s.pollSleepq q) := by
  unfold pollSleepq
  cases hqueue : s.queue (.sleepQ q) with
  | nil =>
    dsimp only
    split
    · have hset : Tallied (s.setLen q 0) := by
        refine Tallied.setLen h.once ?_ fun r _ => h.len r
        rw [hqueue]
        rfl
      have hsame := SameSta.setLen s q 0
      exact ⟨hset.of_same rfl fun _ => rfl, hsame, fun _ hi => hi⟩
    · exact (Calm.refl h).drifts
  | cons f rest =>
    dsimp only
    have hleft := leave_calm h (f := f) (q := q) (hqueue ▸ List.mem_cons_self)
    have hdelivered := hleft.trans (deliver_calm hleft.tallied (h.once.loose_delInit f)
      (withMdata (s.frames f).attrib (((s.listDel f).lenDec q).info q).sleepqLen))
    generalize ((s.listDel f).lenDec q).deliver f _ = t at hdelivered ⊢
    split
    · exact ⟨hdelivered.tallied.of_same rfl fun _ => rfl, hdelivered.same, hdelivered.drifts.dz⟩
    · exact hdelivered.drifts

theorem xmitDeliveryEnabledFrames_drifts (h : Tallied s) (q : StaId) : Drifts s (s.xmitDeliveryEnabledFrames q) := by
  refine foldl_only (P := Drifts s) (triggerTurn q) (.sleepQ q) ?_ _ s (h.once.nodup _) (fun _ hf => hf)
    (Calm.refl h).drifts
  intro t f ht hf
  refine ⟨ht.trans ?_, (t.triggerTurn_turn q f ht.tallied.once).only⟩
  unfold triggerTurn
  dsimp only
  split
  · have hleft := leave_calm ht.tallied hf
    have hcounted := hleft.trans (acLenDec_calm hleft.tallied q)
    have hdelivered := hcounted.trans (deliver_calm hcounted.tallied (ht.tallied.once.loose_delInit f)
      (withEosp (t.frames f).attrib ((((t.listDel f).lenDec q).acLenDec q).staPs q).sleepqAcLen))
    generalize (((t.listDel f).lenDec q).acLenDec q).deliver f _ = u at hdelivered ⊢
    split
    · exact ⟨hdelivered.tallied.of_same rfl fun _ => rfl, hdelivered.same, hdelivered.drifts.dz⟩
    · exact hdelivered.drifts
  · exact (Calm.refl ht.tallied).drifts

end Drift

end XmitPriv

end Rtl8723au
