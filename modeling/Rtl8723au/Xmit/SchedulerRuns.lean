import Rtl8723au.Xmit.Scheduler
import Rtl8723au.Library.WhileLoop
import Rtl8723au.Xmit.FramesOwned

/-! Runs of the transmit scheduler. A station that is put to sleep has its queues unlinked whatever is left
in them, so the runs are those where nothing is. -/
namespace Rtl8723au
open Intrusive
set_option autoImplicit false

namespace XmitPriv

/-! ## Stations that fall asleep -/

/-- `xmitframe_enqueue_for_sleeping_sta` takes the frame. -/
def Sleepable (s : XmitPriv) (f : XmitFrameId) : Prop :=
  s.padapter.checkFwstate WIFI_AP_STATE = true ∧ (s.frames f).attrib.triggered = false ∧
    ∃ psta, xmitSta s.padapter (s.frames f).attrib.toPktAttrib = some psta ∧
      if isMulticastEtherAddr (s.frames f).attrib.ra then s.dz ≠ 0
      else (s.info psta).inState WIFI_SLEEP_STATE = true ∧ s.padapter.stapriv.dzTest (s.info psta).aid = true

/-- The frames and the stations stay, and no bit of `sta_dz_bitmap` is lost. -/
structure Dozing (s s' : XmitPriv) : Prop where
  frames : s'.frames = s.frames
  same : SameSta s.padapter s'.padapter
  dz : ∃ b, s'.dz = s.dz ||| b

theorem Dozing.trans {s s' s'' : XmitPriv} (h : Dozing s s') (h' : Dozing s' s'') : Dozing s s'' := by
  obtain ⟨b, hb⟩ := h.dz
  obtain ⟨b', hb'⟩ := h'.dz
  refine ⟨h'.frames.trans h.frames, h.same.trans h'.same, b ||| b', ?_⟩
  rw [← BitVec.or_assoc, ← hb]
  exact hb'

theorem Dozing.sleepable {s s' : XmitPriv} {f : XmitFrameId} (h : Dozing s s') (hf : s.Sleepable f) :
    s'.Sleepable f := by
  obtain ⟨hap, htriggered, psta, hsta, hdz⟩ := hf
  obtain ⟨b, hb⟩ := h.dz
  have hmore : ∀ m : BitVec 16, s.dz &&& m ≠ 0 → s'.dz &&& m ≠ 0 := by
    intro m hm hzero
    apply hm
    rw [hb] at hzero
    have hsub : s.dz &&& m = (s.dz &&& m) &&& ((s.dz ||| b) &&& m) := by
      ext i hi
      simp only [BitVec.getElem_and, BitVec.getElem_or]
      cases s.dz[i] <;> cases m[i] <;> rfl
    rw [hsub, hzero]
    exact BitVec.and_zero
  rw [Sleepable, h.frames, h.same.xmitSta]
  refine ⟨?_, htriggered, psta, hsta, ?_⟩
  · rw [RtwAdapter.checkFwstate, h.same.fwState]
    exact hap
  · split
    · rename_i hra
      rw [if_pos hra] at hdz
      have hall := hmore (BitVec.allOnes 16)
      rw [BitVec.and_allOnes, BitVec.and_allOnes] at hall
      exact hall hdz
    · rename_i hra
      rw [if_neg hra] at hdz
      obtain ⟨hasleep, hbit⟩ := hdz
      refine ⟨(h.same.inState psta _).trans hasleep, ?_⟩
      have haid : (s'.info psta).aid = (s.info psta).aid := h.same.aid psta
      rw [StaPriv.dzTest, bne_iff_ne] at hbit ⊢
      rw [haid]
      exact hmore _ hbit

section Stop
variable {s : XmitPriv} {f : XmitFrameId}

theorem sleepqAdd_dozing (s : XmitPriv) (f : XmitFrameId) (psta : StaId) : Dozing s (s.sleepqAdd f psta) :=
  ⟨rfl, SameSta.setLen ((s.listDel f).listAdd (.sleepQ psta) f) psta _, ⟨0, (BitVec.or_zero).symm⟩⟩

theorem sched_noteSleeping (s : XmitPriv) (f : XmitFrameId) (psta : StaId) :
    (s.noteSleeping f psta).sched = s.sched ∧ (s.noteSleeping f psta).frames = s.frames ∧
      (s.noteSleeping f psta).padapter = s.padapter := by
  unfold noteSleeping
  dsimp only
  split <;> split <;> exact ⟨rfl, rfl, rfl⟩

/-- A frame that is taken goes to a `sleep_q`. -/
theorem Sleepable.taken (h : s.Sleepable f) : ∃ psta s', s.xmitframeEnqueueForSleepingSta f = (true, s') ∧
    s'.sched = s.sched.withQueue (moveTail s.queue (.sleepQ psta) f) ∧ Dozing s s' := by
  obtain ⟨hap, htriggered, psta, hsta, hdz⟩ := h
  have hdozing := s.sleepqAdd_dozing f psta
  have hsched : (s.sleepqAdd f psta).sched = s.sched.withQueue (moveTail s.queue (.sleepQ psta) f) := rfl
  unfold xmitframeEnqueueForSleepingSta
  dsimp only
  rw [if_pos hap, hsta]
  dsimp only
  rw [if_neg (by rw [htriggered]; exact Bool.false_ne_true)]
  split
  · rename_i hra
    rw [if_pos hra] at hdz
    rw [enqueueBmc, if_neg hdz]
    refine ⟨psta, _, rfl, hsched, hdozing.frames, ?_, ⟨StaPriv.bitOf 0, rfl⟩⟩
    exact ⟨hdozing.same.fwState, hdozing.same.staHash, hdozing.same.hwaddr, hdozing.same.state, hdozing.same.aid⟩
  · rename_i hra
    rw [if_neg hra] at hdz
    rw [enqueueUnicast, if_pos (by rw [hdz.1, hdz.2]; rfl)]
    obtain ⟨hnoted, hframes, hadapter⟩ := (s.sleepqAdd f psta).sched_noteSleeping f psta
    refine ⟨psta, _, rfl, hnoted.trans hsched, hframes.trans hdozing.frames, ?_, ⟨0, ?_⟩⟩
    · rw [hadapter]
      exact hdozing.same
    · rw [dz, hadapter]
      exact (BitVec.or_zero).symm

/-- A turn on a frame that is taken: it leaves its queue and is counted off. -/
theorem sleepTurn_sound {n : TxServq} {N : Set TxServq} (hs : s.sched.Sound N)
    (hf : f ∈ s.queue (.staPending n)) (htake : s.Sleepable f) :
    (sleepTurn n.1 s f).sched.Sound (insert n N) ∧ Dozing s (sleepTurn n.1 s f) ∧
      (sleepTurn n.1 s f).queue (.staPending n) = delInit s.queue f (.staPending n) ∧
      ∀ m ≠ n, (sleepTurn n.1 s f).queue (.staPending m) = s.queue (.staPending m) := by
  obtain ⟨psta, s', htaken, hsched, hdozing⟩ := htake.taken
  have hprio : acOf (s'.frames f).attrib.priority = n.2 := by
    rw [hdozing.frames]
    exact hs.priority n f hf
  have hpending : ∀ m, moveTail s.queue (.sleepQ psta) f (.staPending m) = delInit s.queue f (.staPending m) :=
    fun m => addTail_of_ne _ _ TxQueue.noConfusion
  have hqueue : s'.queue = moveTail s.queue (.sleepQ psta) f := congrArg TxSched.queue hsched
  have hleft : (s'.sched.count n n.2 (-1)).Sound (insert n N) := by
    rw [hsched]
    exact hs.leave hf (hs.once.moveTail (.sleepQ psta) f) hpending
  have hturn : sleepTurn n.1 s f = s'.count n n.2 (-1) := by
    unfold sleepTurn
    rw [htaken]
    dsimp only
    rw [hprio]
  rw [hturn]
  refine ⟨hleft, ⟨hdozing.frames, hdozing.same, hdozing.dz⟩, ?_, ?_⟩
  · show s'.queue (.staPending n) = _
    rw [hqueue, hpending]
  · intro m hm
    show s'.queue (.staPending m) = _
    rw [hqueue, hpending]
    exact hs.once.delInit_other hf fun he => hm (TxQueue.staPending.inj he)

theorem sleepLoop_sound {n : TxServq} {N : Set TxServq} (l : List XmitFrameId) (s : XmitPriv)
    (hs : s.sched.Sound (insert n N)) (hl : s.queue (.staPending n) = l) (htake : ∀ f ∈ l, s.Sleepable f) :
    (l.foldl (sleepTurn n.1) s).sched.Sound (insert n N) ∧
      (l.foldl (sleepTurn n.1) s).queue (.staPending n) = [] ∧ Dozing s (l.foldl (sleepTurn n.1) s) ∧
      ∀ m ≠ n, (l.foldl (sleepTurn n.1) s).queue (.staPending m) = s.queue (.staPending m) := by
  induction l generalizing s with
  | nil => exact ⟨hs, hl, ⟨rfl, SameSta.refl _, ⟨0, (BitVec.or_zero).symm⟩⟩, fun _ _ => rfl⟩
  | cons f rest ih =>
    obtain ⟨hsound, hdozing, hqueue, hother⟩ :=
      sleepTurn_sound hs (hl ▸ List.mem_cons_self) (htake f List.mem_cons_self)
    rw [Set.insert_eq_of_mem (Set.mem_insert n N)] at hsound
    obtain ⟨hsound', hempty, hdozing', hother'⟩ := ih (sleepTurn n.1 s f) hsound
      (hqueue.trans (delInit_head hl)) fun g hg => hdozing.sleepable (htake g (List.mem_cons_of_mem f hg))
    exact ⟨hsound', hempty, hdozing.trans hdozing', fun m hm => (hother' m hm).trans (hother m hm)⟩

theorem stopServq_sound {psta : StaId} {ac : Ac} (hs : s.sched.Sound ∅)
    (htake : ∀ f ∈ s.queue (.staPending (psta, ac)), s.Sleepable f) :
    (stopServq psta s ac).sched.Sound ∅ ∧ Dozing s (stopServq psta s ac) ∧
      ∀ m, ∀ f ∈ (stopServq psta s ac).queue (.staPending m), f ∈ s.queue (.staPending m) := by
  obtain ⟨hsound, hempty, hdozing, hother⟩ := sleepLoop_sound (n := (psta, ac)) (N := ∅) _ s
    (hs.mono (Set.empty_subset _)) rfl htake
  refine ⟨hsound.unlink hempty, ⟨hdozing.frames, hdozing.same, hdozing.dz⟩, ?_⟩
  intro m f (hf : f ∈ (List.foldl _ s _).queue (.staPending m))
  by_cases hm : m = (psta, ac)
  · rw [hm, hempty] at hf
    exact absurd hf List.not_mem_nil
  · exact hother m hm ▸ hf

theorem stopFour_sound (psta : StaId) (acs : List Ac) (s : XmitPriv) (hs : s.sched.Sound ∅)
    (htake : ∀ ac ∈ acs, ∀ f ∈ s.queue (.staPending (psta, ac)), s.Sleepable f) :
    (acs.foldl (stopServq psta) s).sched.Sound ∅ ∧ Dozing s (acs.foldl (stopServq psta) s) ∧
      ∀ m, ∀ f ∈ (acs.foldl (stopServq psta) s).queue (.staPending m), f ∈ s.queue (.staPending m) := by
  induction acs generalizing s with
  | nil => exact ⟨hs, ⟨rfl, SameSta.refl _, ⟨0, (BitVec.or_zero).symm⟩⟩, fun _ _ hf => hf⟩
  | cons ac rest ih =>
    obtain ⟨hsound, hdozing, hfewer⟩ := stopServq_sound hs (htake ac List.mem_cons_self)
    obtain ⟨hsound', hdozing', hfewer'⟩ := ih (stopServq psta s ac) hsound fun ac' hac' f hf =>
      hdozing.sleepable (htake ac' (List.mem_cons_of_mem ac hac') f (hfewer (psta, ac') f hf))
    exact ⟨hsound', hdozing.trans hdozing', fun m f hf => hfewer m f (hfewer' m f hf)⟩

/-- **What a station is put to sleep with**: every frame that waits for it, and every broadcast frame of
best effort, is one that goes to a `sleep_q`. -/
def AllSleepable (s : XmitPriv) (psta : StaId) : Prop :=
  (∀ ac, ∀ f ∈ s.queue (.staPending (psta, ac)), (s.markSleeping psta).Sleepable f) ∧
    ∀ pstaBmc, rtwGetBcmcStainfo s.padapter.stapriv = some pstaBmc →
      ∀ f ∈ s.queue (.staPending (pstaBmc, .be)), (s.markSleeping psta).Sleepable f

theorem stopStaXmit_sound {psta : StaId} {s' : XmitPriv} (h : s.stopStaXmit psta = some s')
    (hall : s.AllSleepable psta) (hs : s.sched.Sound ∅) : s'.sched.Sound ∅ := by
  obtain ⟨pstaBmc, hbmc, rfl⟩ := Option.map_eq_some_iff.mp h
  obtain ⟨hsound, hdozing, hfewer⟩ := stopFour_sound psta [Ac.vo, .vi, .be, .bk] (s.markSleeping psta) hs
    fun ac _ => hall.1 ac
  exact (stopServq_sound hsound fun f hf =>
    hdozing.sleepable (hall.2 pstaBmc hbmc f (hfewer (pstaBmc, .be) f hf))).1

end Stop

/-! ## The other steps -/

section Steps
variable {s : XmitPriv} {f : XmitFrameId} {psta : StaId}

/-- A loop over a `sleep_q`. -/
theorem foldl_sleepq (psta : StaId) (turn : XmitPriv → XmitFrameId → XmitPriv)
    (hturn : ∀ s f, Once s.queue → Turn f s (turn s f))
    (hsound : ∀ s f, s.sched.Sound ∅ → s.sched.Outside f → (turn s f).sched.Sound ∅) (hs : s.sched.Sound ∅) :
    ((s.queue (.sleepQ psta)).foldl turn s).sched.Sound ∅ := by
  refine foldl_only (P := fun s => s.sched.Sound ∅) turn (.sleepQ psta) ?_ _ s (hs.once.nodup _) (fun _ hf => hf) hs
  intro t f ht hf
  exact ⟨hsound t f ht (ht.outside hf fun _ => TxQueue.noConfusion), (hturn t f ht.once).only⟩

theorem wakeupTurn_sound (hs : s.sched.Sound ∅) (hf : s.sched.Outside f) :
    (wakeupTurn psta s f).sched.Sound ∅ := by
  unfold wakeupTurn
  dsimp only
  split
  · exact s.delivered_sound _ hs hf rfl rfl
  · exact s.delivered_sound _ hs hf rfl rfl

theorem wakeupUnicast_sound (hs : s.sched.Sound ∅) : (s.wakeupUnicast psta).sched.Sound ∅ := by
  have hloop := foldl_sleepq psta (wakeupTurn psta)
    (fun s f honce => s.wakeupTurn_turn psta f honce) (fun _ _ => wakeupTurn_sound) hs
  unfold wakeupUnicast
  dsimp only
  split
  · exact hloop
  · exact hloop

theorem wakeupBmc_sound (hs : s.sched.Sound ∅) : s.wakeupBmc.sched.Sound ∅ := by
  unfold wakeupBmc
  split
  · exact hs
  · rename_i pstaBmc _
    have hloop := foldl_sleepq pstaBmc (wakeupBmcTurn pstaBmc)
      (fun s f honce => s.deliver_turn _ honce rfl rfl) (fun s f hs hf => s.delivered_sound _ hs hf rfl rfl) hs
    split
    · dsimp only
      split
      · exact hloop
      · exact hloop
    · exact hs

theorem wakeupStaToXmit_sound (hs : s.sched.Sound ∅) : (s.wakeupStaToXmit psta).sched.Sound ∅ :=
  wakeupBmc_sound (wakeupUnicast_sound hs)

theorem freeLoop_sched {n : TxServq} (l : List XmitFrameId) (s : XmitPriv) (honce : Once s.queue)
    (hl : s.queue (.staPending n) = l) : ∃ queue, (l.foldl rtwFreeXmitframe s).sched = s.sched.withQueue queue ∧
      Once queue ∧ queue (.staPending n) = [] ∧ ∀ m ≠ n, queue (.staPending m) = s.queue (.staPending m) := by
  induction l generalizing s with
  | nil => exact ⟨s.queue, rfl, honce, hl, fun _ _ => rfl⟩
  | cons f rest ih =>
    have hf : f ∈ s.queue (.staPending n) := hl ▸ List.mem_cons_self
    have hfreed := s.rtwFreeXmitframe_sched f
    have hqueue : (s.rtwFreeXmitframe f).queue = moveTail s.queue .freeXmitQueue f :=
      congrArg TxSched.queue hfreed
    have hpending : ∀ m, moveTail s.queue .freeXmitQueue f (.staPending m) = delInit s.queue f (.staPending m) :=
      fun m => addTail_of_ne _ _ TxQueue.noConfusion
    obtain ⟨queue, hsched, honce', hempty, hstay⟩ := ih (s.rtwFreeXmitframe f)
      (hqueue ▸ honce.moveTail _ f) (by rw [hqueue, hpending, delInit_head hl])
    refine ⟨queue, ?_, honce', hempty, ?_⟩
    · rw [List.foldl_cons, hsched, hfreed]
      rfl
    · intro m hm
      rw [hstay m hm, hqueue, hpending]
      exact honce.delInit_other hf fun he => hm (TxQueue.staPending.inj he)

theorem freeServq_sound (n : TxServq) (hs : s.sched.Sound ∅) : (s.freeServq n).sched.Sound ∅ := by
  obtain ⟨queue, hsched, honce, hempty, hstay⟩ := freeLoop_sched (n := n) _ s hs.once rfl
  have hdrained := hs.drain honce hempty hstay
  rw [← hsched] at hdrained
  have hqcnt : (s.rtwFreeXmitframeQueue (.staPending n)).qcnt = s.qcnt := congrArg TxSched.qcnt hsched
  have hcount : (s.freeServq n).sched =
      ((s.rtwFreeXmitframeQueue (.staPending n)).sched.unlink n).count n n.2 (-s.qcnt n) := by
    unfold freeServq TxSched.count TxSched.unlink
    unfold sched txPendingDel
    dsimp only
    rw [hqcnt, add_neg_cancel, ← sub_eq_add_neg]
  rw [hcount]
  exact hdrained

theorem rtwFreeStainfo_sound (hs : s.sched.Sound ∅) : (s.rtwFreeStainfo psta).sched.Sound ∅ := by
  have hsleep : (s.rtwFreeXmitframeQueue (.sleepQ psta)).sched.Sound ∅ := foldl_sleepq psta rtwFreeXmitframe
    (fun s f _ => (s.rtwFreeXmitframe_handled f).turn) (fun s _ => s.rtwFreeXmitframe_sound) hs
  have hfour : (s.freeQueues psta).sched.Sound ∅ :=
    freeServq_sound (psta, .bk) <| freeServq_sound (psta, .be) <| freeServq_sound (psta, .vi) <|
      freeServq_sound (psta, .vo) hsleep
  unfold rtwFreeStainfo
  generalize s.freeQueues psta = t at hfour
  dsimp only
  split
  · exact hfour
  · exact hfour

theorem rtwDequeueXframe_sound {s' : XmitPriv} (hs : s.sched.Sound ∅) (h : s.rtwDequeueXframe = some (f, s')) :
    s'.sched.Sound ∅ ∧ ∃ n, f ∈ s.queue (.staPending n) ∧ s'.queue = delInit s.queue f := by
  obtain ⟨ac, -, hac⟩ := List.exists_of_findSome?_eq_some h
  obtain ⟨n, hn, hone⟩ := List.exists_of_findSome?_eq_some hac
  obtain ⟨hf, hpool⟩ := dequeueOneXmitframe_some hone
  refine ⟨?_, n, hf, congrArg TxPool.queue hpool⟩
  have hac' : n.2 = ac := hs.nodeAc ac n hn
  subst hac'
  unfold dequeueOneXmitframe at hone
  split at hone
  · exact absurd hone (by simp)
  · rename_i g rest hhead
    dsimp only at hone
    rw [Option.some.injEq, Prod.mk.injEq] at hone
    obtain ⟨rfl, rfl⟩ := hone
    have hleft : ((s.listDel g).count n n.2 (-1)).sched.Sound (insert n ∅) :=
      hs.leave hf (hs.once.delInit g) fun _ => rfl
    have hqueue : delInit s.queue g (.staPending n) = rest := delInit_head hhead
    split
    · rename_i hrest
      exact hleft.unlink (hqueue.trans hrest)
    · rename_i hrest
      exact hleft.relink (iff_of_true hn fun hempty => hrest (hqueue.symm.trans hempty))

theorem enqueueForSleeping_sound (hs : s.sched.Sound ∅) (hf : s.sched.Outside f) :
    (s.xmitframeEnqueueForSleepingSta f).2.sched.Sound ∅ := by
  have houtcome := s.xmitframeEnqueueForSleepingSta_outcome f
  generalize s.xmitframeEnqueueForSleepingSta f = r at houtcome
  cases houtcome with
  | awake => exact hs
  | highQueue =>
    have hsame : (s.setAttrib f { (s.frames f).attrib with qsel := 0x11 }).sched = s.sched :=
      s.sched_setFrame f _ rfl
    exact hsame.symm ▸ hs
  | bmc psta => exact hs.move (q := .sleepQ psta) hf fun _ => TxQueue.noConfusion
  | unicast psta =>
    rw [((s.sleepqAdd f psta).sched_noteSleeping f psta).1]
    exact hs.move (q := .sleepQ psta) hf fun _ => TxQueue.noConfusion

theorem preEnqueue_sound (hs : s.sched.Sound ∅) (hf : Loose s.queue f) : (s.preEnqueue f).2.sched.Sound ∅ := by
  have hsound := s.rtwXmitClassifier_sound hs hf
  have hfalse := s.rtwXmitClassifier_false (f := f)
  unfold preEnqueue
  generalize s.rtwXmitClassifier f = r at hsound hfalse ⊢
  obtain ⟨taken, t⟩ := r
  cases taken with
  | true => exact hsound
  | false =>
    have ht : t = s := hfalse rfl
    rw [ht]
    exact s.rtwFreeXmitframe_sound hs fun _ => hf _

theorem preAwake_sound (coalesced : Option ℕ) (hs : s.sched.Sound ∅) (hf : Loose s.queue f) :
    (s.preAwake f coalesced).2.sched.Sound ∅ := by
  unfold preAwake rtwAllocXmitbuf
  split
  · exact preEnqueue_sound hs hf
  · split
    · exact preEnqueue_sound hs hf
    · cases s.freeXmitbufQueue with
      | nil => exact preEnqueue_sound hs hf
      | cons b rest =>
        cases coalesced with
        | none => exact rtwFreeXmitframe_sound _ hs fun _ => hf _
        | some nrFrags => exact rtwFreeXmitframe_sound _ hs fun _ => hf _

theorem preXmitframe_sound (coalesced : Option ℕ) (hs : s.sched.Sound ∅) (hf : Loose s.queue f) :
    (s.preXmitframe f coalesced).2.sched.Sound ∅ := by
  let t := s.setAttrib f (doQueueSelect (s.frames f).attrib)
  have ht : t.sched = s.sched := s.sched_setFrame f _ rfl
  have hslept : (t.xmitframeEnqueueForSleepingSta f).2.sched.Sound ∅ :=
    enqueueForSleeping_sound (ht ▸ hs) fun n => ht ▸ hf (.staPending n)
  unfold preXmitframe
  rcases t.enqueueForSleeping_pool f with ⟨s', h, hpool⟩ | ⟨s', h, -⟩
  · rw [h] at hslept
    rw [show (s.setAttrib f (doQueueSelect (s.frames f).attrib)).xmitframeEnqueueForSleepingSta f = _ from h]
    have hqueue : s'.queue = t.queue := congrArg TxPool.queue hpool
    exact preAwake_sound coalesced hslept (hqueue ▸ hf)
  · rw [h] at hslept
    rw [show (s.setAttrib f (doQueueSelect (s.frames f).attrib)).xmitframeEnqueueForSleepingSta f = _ from h]
    dsimp only
    unfold wakeCrowded
    split
    · exact hslept
    · split
      · exact wakeupStaToXmit_sound hslept
      · exact hslept

end Steps

/-! ## Every queued frame is sent -/

/-- The frames that so many calls of `rtw_dequeue_xframe` give. -/
def drain : ℕ → XmitPriv → List XmitFrameId
  | 0, _ => []
  | k + 1, s =>
    match s.rtwDequeueXframe with
    | none => []
    | some (f, s) => f :: drain k s

section Drain
variable {s : XmitPriv} {f : XmitFrameId}

def pendingCnt (s : XmitPriv) : ℕ := ∑ n : TxServq, (s.queue (.staPending n)).length

theorem pendingCnt_delInit {s' : XmitPriv} {n : TxServq} (honce : Once s.queue)
    (hf : f ∈ s.queue (.staPending n)) (hqueue : s'.queue = delInit s.queue f) :
    s'.pendingCnt + 1 = s.pendingCnt := by
  have hother : ∀ m ∈ Finset.univ.erase n,
      (s'.queue (.staPending m)).length = (s.queue (.staPending m)).length := by
    intro m hm
    rw [hqueue, honce.delInit_other hf fun he => Finset.ne_of_mem_erase hm (TxQueue.staPending.inj he)]
  have hlen := length_delInit hf
  unfold pendingCnt
  rw [← Finset.add_sum_erase _ _ (Finset.mem_univ n), ← Finset.add_sum_erase _ _ (Finset.mem_univ n),
    Finset.sum_congr rfl hother, hqueue]
  omega

theorem findSome?_ne_none {α β : Type} {l : List α} {g : α → Option β} {a : α} (ha : a ∈ l) (hg : g a ≠ none) :
    l.findSome? g ≠ none := fun h => hg (List.findSome?_eq_none_iff.mp h a ha)

theorem rtwDequeueXframe_ne_none {n : TxServq} (hs : s.sched.Sound ∅) (hf : f ∈ s.queue (.staPending n)) :
    s.rtwDequeueXframe ≠ none := by
  have hin : n ∈ s.staQueue n.2 := (hs.linked n (Set.notMem_empty n)).mpr (List.ne_nil_of_mem hf)
  have hac : n.2 ∈ s.inx := by
    unfold inx
    split
    · exact s.wmmParaSeq.all n.2
    · cases n.2 <;> decide
  refine findSome?_ne_none hac (findSome?_ne_none hin ?_)
  unfold dequeueOneXmitframe
  split
  · rename_i hempty
    exact absurd (hempty ▸ hf) List.not_mem_nil
  · exact Option.some_ne_none _

/-- **A queued frame is dequeued** before more have been than wait now. -/
theorem mem_drain (k : ℕ) {n : TxServq} (hs : s.sched.Sound ∅) (hk : s.pendingCnt ≤ k)
    (hf : f ∈ s.queue (.staPending n)) : f ∈ s.drain k := by
  induction k generalizing s with
  | zero =>
    have hlen : (s.queue (.staPending n)).length ≤ s.pendingCnt :=
      Finset.single_le_sum (f := fun n => (s.queue (.staPending n)).length) (fun _ _ => Nat.zero_le _)
        (Finset.mem_univ n)
    have hpos := List.length_pos_of_mem hf
    omega
  | succ k ih =>
    obtain ⟨⟨g, t⟩, hdeq⟩ := Option.ne_none_iff_exists'.mp (rtwDequeueXframe_ne_none hs hf)
    obtain ⟨hsound, m, hg, hqueue⟩ := rtwDequeueXframe_sound hs hdeq
    have hcnt := pendingCnt_delInit hs.once hg hqueue
    rw [drain, hdeq, List.mem_cons]
    by_cases hfg : f = g
    · exact Or.inl hfg
    · refine Or.inr (ih hsound (by omega) ?_)
      rw [hqueue]
      exact (mem_delInit_of_ne hfg).mpr hf

end Drain

/-! ## Runs -/

/-- What happens to the scheduler: frames are allocated, given attributes and queued or sent, dequeued and
freed; stations sleep, wake and leave; the rest of the driver changes the adapter. -/
inductive SchedEvent where
  | alloc
  | setFrame (f : XmitFrameId) (frame : TxFrame)
  | classifier (f : XmitFrameId)
  | preXmitframe (f : XmitFrameId) (coalesced : Option ℕ)
  | dequeue
  | free (f : XmitFrameId)
  | stop (psta : StaId)
  | wakeup (psta : StaId)
  | freeStainfo (psta : StaId)
  | driver (padapter : RtwAdapter) (staPs : StaId → StaPs) (timBitmap : BitVec 16)

instance (s : XmitPriv) (f : XmitFrameId) : Decidable (∀ n, f ∉ s.queue (.staPending n)) :=
  inferInstanceAs (Decidable (∀ _ : TxServq, _))

def inHand (s : XmitPriv) (f : XmitFrameId) : Bool :=
  decide (f ∉ s.queue .freeXmitQueue) && decide (∀ n, f ∉ s.queue (.staPending n)) &&
    decide (∀ psta, f ∉ s.queue (.sleepQ psta))

/-- The functions that are called with a frame are called with one that is in no queue. -/
def SchedEvent.step (s : XmitPriv) : SchedEvent → Option XmitPriv
  | .alloc => some s.rtwAllocXmitframe.2
  | .setFrame f frame => if s.inHand f then some (s.setFrame f frame) else none
  | .classifier f => if s.inHand f then some (s.rtwXmitClassifier f).2 else none
  | .preXmitframe f coalesced => if s.inHand f then some (s.preXmitframe f coalesced).2 else none
  | .dequeue => some (s.rtwDequeueXframe.elim s (·.2))
  | .free f => if s.inHand f then some (s.rtwFreeXmitframe f) else none
  | .stop psta => s.stopStaXmit psta
  | .wakeup psta => some (s.wakeupStaToXmit psta)
  | .freeStainfo psta => some (s.rtwFreeStainfo psta)
  | .driver padapter staPs timBitmap => some { s with padapter := padapter, staPs := staPs, timBitmap := timBitmap }

/-- A station is put to sleep only when all that waits for it goes to its `sleep_q`. -/
def SchedEvent.Clean (s : XmitPriv) : SchedEvent → Prop
  | .stop psta => s.AllSleepable psta
  | _ => True

def SchedStep (s s' : XmitPriv) : Prop := ∃ event : SchedEvent, event.step s = some s'

def CleanStep (s s' : XmitPriv) : Prop := ∃ event : SchedEvent, event.Clean s ∧ event.step s = some s'

theorem loose_of_inHand {s : XmitPriv} {f : XmitFrameId} (h : s.inHand f = true) : Loose s.queue f := by
  unfold inHand at h
  rw [Bool.and_eq_true, Bool.and_eq_true, decide_eq_true_iff, decide_eq_true_iff, decide_eq_true_iff] at h
  obtain ⟨⟨hfree, hpending⟩, hsleep⟩ := h
  intro q
  cases q with
  | freeXmitQueue => exact hfree
  | staPending n => exact hpending n
  | sleepQ psta => exact hsleep psta

theorem setFrame_sound {s : XmitPriv} {f : XmitFrameId} (hs : s.sched.Sound ∅) (hf : s.sched.Outside f)
    (frame : TxFrame) : (s.setFrame f frame).sched.Sound ∅ := by
  have hprio : ∀ g ≠ f, (s.setFrame f frame).sched.priority g = s.sched.priority g := by
    intro g hg
    show (Function.update s.frames f frame g).attrib.priority = _
    rw [Function.update_of_ne hg]
    rfl
  exact hs.setPriority hf (s.setFrame f frame).sched.priority hprio

theorem rtwAllocXmitframe_sound {s : XmitPriv} (hs : s.sched.Sound ∅) : s.rtwAllocXmitframe.2.sched.Sound ∅ := by
  unfold rtwAllocXmitframe
  split
  · exact hs
  · rename_i f rest hhead
    have hfree : f ∈ s.queue .freeXmitQueue := hhead ▸ List.mem_cons_self
    have hf : s.sched.Outside f := hs.outside hfree fun _ => TxQueue.noConfusion
    have htaken : (s.listDel f).sched.Sound ∅ := hs.take hf
    exact setFrame_sound htaken (fun n hn => hf n (mem_of_delInit hn)) {}

theorem CleanStep.sound {s s' : XmitPriv} (h : CleanStep s s') (hs : s.sched.Sound ∅) : s'.sched.Sound ∅ := by
  obtain ⟨event, hclean, hstep⟩ := h
  have hcall : ∀ {f : XmitFrameId} {t : XmitPriv}, (if s.inHand f then some t else none) = some s' →
      Loose s.queue f ∧ t = s' := by
    intro f t hif
    split at hif
    · rename_i hin
      exact ⟨loose_of_inHand hin, Option.some.inj hif⟩
    · exact absurd hif (by simp)
  cases event with
  | alloc => exact Option.some.inj hstep ▸ rtwAllocXmitframe_sound hs
  | setFrame f frame =>
    obtain ⟨hf, rfl⟩ := hcall hstep
    exact setFrame_sound hs (fun n => hf (.staPending n)) frame
  | classifier f =>
    obtain ⟨hf, rfl⟩ := hcall hstep
    exact s.rtwXmitClassifier_sound hs hf
  | preXmitframe f coalesced =>
    obtain ⟨hf, rfl⟩ := hcall hstep
    exact preXmitframe_sound coalesced hs hf
  | dequeue =>
    have hdone := Option.some.inj hstep
    cases hdeq : s.rtwDequeueXframe with
    | none =>
      rw [hdeq] at hdone
      exact hdone ▸ hs
    | some r =>
      rw [hdeq] at hdone
      exact hdone ▸ (rtwDequeueXframe_sound hs hdeq).1
  | free f =>
    obtain ⟨hf, rfl⟩ := hcall hstep
    exact s.rtwFreeXmitframe_sound hs fun n => hf (.staPending n)
  | stop psta => exact stopStaXmit_sound hstep hclean hs
  | wakeup psta => exact Option.some.inj hstep ▸ wakeupStaToXmit_sound hs
  | freeStainfo psta => exact Option.some.inj hstep ▸ rtwFreeStainfo_sound hs
  | driver padapter staPs timBitmap => exact Option.some.inj hstep ▸ hs

theorem rtwInitXmitPriv_sound (padapter : RtwAdapter) : (rtwInitXmitPriv padapter).sched.Sound ∅ where
  once := (rtwInitXmitPriv_owned padapter).once
  nodes := ⟨fun _ => List.nodup_nil, fun _ _ _ h => absurd h List.not_mem_nil⟩
  nodeAc _ _ h := absurd h List.not_mem_nil
  linked _ _ := iff_of_false List.not_mem_nil fun h => h rfl
  qcnt _ := rfl
  accnt _ := (Finset.sum_const_zero).symm
  priority _ _ h := absurd h List.not_mem_nil

/-- What the scheduler promises. -/
structure Scheduled (s : XmitPriv) : Prop where
  qcnt : ∀ n, s.qcnt n = (s.queue (.staPending n)).length
  linked : ∀ n ac, n ∈ s.staQueue ac ↔ ac = n.2 ∧ s.queue (.staPending n) ≠ []
  once : ∀ ac, (s.staQueue ac).Nodup
  accnt : ∀ ac, s.accnt ac = ((s.staQueue ac).map s.qcnt).sum
  reached : ∀ n, ∀ f ∈ s.queue (.staPending n), ∃ k, f ∈ s.drain k

theorem accnt_linked {s : XmitPriv} (hs : s.sched.Sound ∅) (ac : Ac) :
    s.accnt ac = ((s.staQueue ac).map s.qcnt).sum := by
  have hzero : ∀ psta : StaId, (psta, ac) ∉ s.staQueue ac → s.qcnt (psta, ac) = 0 := by
    intro psta hnot
    have hempty : s.queue (.staPending (psta, ac)) = [] := by
      by_contra hne
      exact hnot ((hs.linked (psta, ac) (Set.notMem_empty _)).mpr hne)
    rw [show s.qcnt (psta, ac) = _ from hs.qcnt (psta, ac)]
    exact_mod_cast congrArg List.length hempty
  have hinj : Function.Injective fun psta : StaId => (psta, ac) := fun _ _ h => (Prod.mk.inj h).1
  have hsub : (s.staQueue ac).toFinset ⊆ Finset.univ.map ⟨fun psta : StaId => (psta, ac), hinj⟩ := by
    rintro ⟨psta, ac'⟩ hn
    rw [List.mem_toFinset] at hn
    have hac : ac' = ac := hs.nodeAc ac _ hn
    rw [hac, Finset.mem_map]
    exact ⟨psta, Finset.mem_univ psta, rfl⟩
  have hall : s.accnt ac = ∑ n ∈ Finset.univ.map ⟨fun psta : StaId => (psta, ac), hinj⟩, s.qcnt n := by
    rw [Finset.sum_map]
    exact hs.accnt ac
  have hnodup : (s.staQueue ac).Nodup := hs.nodes.nodup ac
  rw [hall, ← List.sum_toFinset s.qcnt hnodup]
  refine (Finset.sum_subset hsub ?_).symm
  intro n hn hnot
  obtain ⟨psta, -, rfl⟩ := Finset.mem_map.mp hn
  exact hzero psta fun hin => hnot (List.mem_toFinset.mpr hin)

theorem Scheduled.of_sound {s : XmitPriv} (hs : s.sched.Sound ∅) : s.Scheduled where
  qcnt := hs.qcnt
  linked n ac := by
    have hlinked := hs.linked n (Set.notMem_empty n)
    constructor
    · intro hn
      have hac : n.2 = ac := hs.nodeAc ac n hn
      subst hac
      exact ⟨rfl, hlinked.mp hn⟩
    · rintro ⟨rfl, hne⟩
      exact hlinked.mpr hne
  once := hs.nodes.nodup
  accnt := accnt_linked hs
  reached n f hf := ⟨s.pendingCnt, mem_drain s.pendingCnt hs le_rfl hf⟩

/-- **No frame is stranded** in a run whose stations fall asleep with all that waits for them. -/
theorem scheduler_run (padapter : RtwAdapter) (s : XmitPriv)
    (hrun : Relation.ReflTransGen CleanStep (rtwInitXmitPriv padapter) s) : s.Scheduled :=
  .of_sound (LoopRun.run_invariant (I := fun s => s.sched.Sound ∅) (fun _ _ hs hstep => hstep.sound hs) hrun
    (rtwInitXmitPriv_sound padapter))

/-! ## A frame that is stranded -/

def cellAddr : MacAddr := #v[2, 0, 0, 0, 0, 2]

/-- An access point with its broadcast station and one associated station. -/
def cellStaInfo (psta : StaId) : StaInfo :=
  if psta = 0 then { hwaddr := bcAddr, state := _FW_LINKED }
  else { hwaddr := cellAddr, state := _FW_LINKED, aid := 1 }

def cellAdapter : RtwAdapter where
  fwState := WIFI_AP_STATE
  stapriv := { staInfo := cellStaInfo, staHash := fun _ => [0, 1] }

def cellFrame : TxFrame where
  attrib := { psta := some 1, ra := cellAddr }

def runEvents (s : XmitPriv) (events : List SchedEvent) : Option XmitPriv := events.foldlM SchedEvent.step s

theorem runEvents_run (events : List SchedEvent) (s s' : XmitPriv) (h : runEvents s events = some s') :
    Relation.ReflTransGen SchedStep s s' := by
  induction events generalizing s with
  | nil =>
    cases h
    exact .refl
  | cons event rest ih =>
    obtain ⟨t, ht, hrest⟩ := Option.bind_eq_some_iff.mp h
    exact .head ⟨event, ht⟩ (ih t hrest)

/-- The station sleeps, a frame comes for it, it wakes, and sleeps again before the tasklet has run. -/
def strandingEvents : List SchedEvent :=
  [.alloc, .setFrame 0 cellFrame, .stop 1, .preXmitframe 0 none, .wakeup 1, .stop 1]

set_option maxRecDepth 20000 in
theorem strandingEvents_end : ∃ s, runEvents (rtwInitXmitPriv cellAdapter) strandingEvents = some s ∧
    s.queue (.staPending (1, .be)) = [0] ∧ s.staQueue .be = [] :=
  ⟨_, rfl, rfl, rfl⟩

/-- The frame waits in a queue that is linked nowhere. -/
theorem scheduler_stranded : ¬ ∀ (padapter : RtwAdapter) (s : XmitPriv),
    Relation.ReflTransGen SchedStep (rtwInitXmitPriv padapter) s → s.Scheduled := by
  intro hall
  obtain ⟨s, hrun, hqueue, hlinked⟩ := strandingEvents_end
  have hs := hall cellAdapter s (runEvents_run _ _ _ hrun)
  have hin := (hs.linked (1, .be) .be).mpr ⟨rfl, by rw [hqueue]; exact List.cons_ne_nil _ _⟩
  rw [hlinked] at hin
  exact List.not_mem_nil hin

set_option maxRecDepth 20000 in
theorem scheduler_run_queued : ∃ s, runEvents (rtwInitXmitPriv cellAdapter)
    [.alloc, .setFrame 0 cellFrame, .classifier 0] = some s ∧ s.Scheduled :=
  ⟨_, rfl, scheduler_run cellAdapter _ (.tail (.tail (.tail .refl ⟨.alloc, trivial, rfl⟩)
    ⟨.setFrame 0 cellFrame, trivial, rfl⟩) ⟨.classifier 0, trivial, rfl⟩)⟩

end XmitPriv

end Rtl8723au
