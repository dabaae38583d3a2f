import Rtl8723au.Xmit.SchedulerRuns
import Rtl8723au.Xmit.SleepSteps

/-! Runs of the `sleep_q` of one station: it falls asleep and wakes up, frames come for it, and it polls for
them or triggers their delivery. -/
namespace Rtl8723au
open Intrusive
set_option autoImplicit false

namespace XmitPriv

/-! ## The events -/

/-- A frame is allocated, given its attributes, and buffered or queued; the tasklet sends a queued frame; the
station falls asleep, polls, triggers and wakes up. -/
inductive SleepEvent where
  | alloc
  | setFrame (f : XmitFrameId) (frame : TxFrame)
  | enqueue (f : XmitFrameId)
  | halEnqueue (f : XmitFrameId)
  | tasklet
  | stop
  | psPoll (priority : ℕ)
  | trigger
  | wakeup

/-- As `update_attrib` settles it, a multicast frame goes to the broadcast station. -/
def addressed (p : StaId) (frame : TxFrame) : Bool :=
  !(isMulticastEtherAddr frame.attrib.ra && frame.attrib.psta == some p)

namespace SleepEvent

def step (p : StaId) (s : XmitPriv) : SleepEvent → Option XmitPriv
  | .alloc => some s.rtwAllocXmitframe.2
  | .setFrame f frame => if s.inHand f && addressed p frame then some (s.setFrame f frame) else none
  | .enqueue f => if s.inHand f then some (s.xmitframeEnqueueForSleepingSta f).2 else none
  | .halEnqueue f => if s.inHand f then some (s.rtwHalXmitframeEnqueue f) else none
  | .tasklet => s.rtwDequeueXframe.map fun (f, s) => s.rtwFreeXmitframe f
  | .stop => s.stopStaXmit p
  | .psPoll priority => some (s.psPoll p priority)
  | .trigger => some (s.xmitDeliveryEnabledFrames p)
  | .wakeup => some (s.wakeupStaToXmit p)

/-- A poll that is answered finds a frame of a legacy category first, and a trigger does not take the last
frames of a legacy station whose bit is set. -/
def Clean (p : StaId) (s : XmitPriv) : SleepEvent → Prop
  | .psPoll priority => (s.staPs p).wmmpsAc 0 priority = false → (s.info p).inState WIFI_SLEEP_STATE = true →
      s.padapter.stapriv.dzTest (s.info p).aid = true → ∀ f rest, s.queue (.sleepQ p) = f :: rest →
        (s.staPs p).wmmpsAc 0 (s.frames f).attrib.priority = false
  | .trigger => (s.staPs p).hasLegacyAc = true → s.timTest (s.info p).aid = true → s.queue (.sleepQ p) ≠ [] →
      ∃ f ∈ s.queue (.sleepQ p), (s.staPs p).wmmpsAc 0 (s.frames f).attrib.priority = false
  | _ => True

end SleepEvent

def SleepStep (p : StaId) (s s' : XmitPriv) : Prop := ∃ event : SleepEvent, event.step p s = some s'

def CleanSleepStep (p : StaId) (s s' : XmitPriv) : Prop :=
  ∃ event : SleepEvent, event.Clean p s ∧ event.step p s = some s'

/-- What the accounts of a `sleep_q` promise. -/
structure SleepqAccounts (p : StaId) (s : XmitPriv) : Prop where
  len : (s.info p).sleepqLen = (s.queue (.sleepQ p)).length
  acLen : (s.staPs p).sleepqAcLen =
    (s.queue (.sleepQ p)).countP fun f => (s.staPs p).wmmpsAc 0 (s.frames f).attrib.priority
  noUnderflow : p ∉ s.wrapped
  quiet : s.queue (.sleepQ p) = [] → s.timTest (s.info p).aid = false
  announced : (∃ f ∈ s.queue (.sleepQ p), (s.staPs p).wmmpsAc 0 (s.frames f).attrib.priority = false) →
    s.timTest (s.info p).aid = true

namespace Kept
variable {p : StaId} {s s' : XmitPriv} {f : XmitFrameId}

theorem accounts (h : Kept p s) : SleepqAccounts p s where
  len := h.fair.counted.len
  acLen := h.fair.counted.acLen
  noUnderflow := of_decide_eq_false h.fair.counted.wrapped
  quiet := h.fair.quiet
  announced := fun ⟨f, hf, hlegacy⟩ => h.fair.announced f hf hlegacy

theorem of_accounts (hsta : s.PsStation p) (honce : Once s.queue) (h : SleepqAccounts p s) : Kept p s where
  sta := hsta
  once := honce
  fair := {
    counted := ⟨honce.nodup (.sleepQ p), h.len, h.acLen, decide_eq_false h.noUnderflow⟩
    announced := fun f hf hlegacy => h.announced ⟨f, hf, hlegacy⟩
    quiet := h.quiet }

/-! ## The steps -/

theorem setFrame (h : Kept p s) (hf : f ∉ s.queue (.sleepQ p)) {frame : TxFrame}
    (haddressed : isMulticastEtherAddr frame.attrib.ra = true → frame.attrib.psta ≠ some p) :
    Kept p (s.setFrame f frame) := by
  have hother : ∀ g ∈ s.queue (.sleepQ p), (s.setFrame f frame).frames g = s.frames g := by
    intro g hg
    have hne : g ≠ f := fun hgf => hf (hgf ▸ hg)
    exact Function.update_of_ne hne ..
  have haccounts := h.accounts
  refine of_accounts { h.sta with addressed := ?_ } h.once { haccounts with acLen := ?_, announced := ?_ }
  · intro g
    by_cases hg : g = f
    · subst hg
      show isMulticastEtherAddr (Function.update s.frames g frame g).attrib.ra = true →
        (Function.update s.frames g frame g).attrib.psta ≠ some p
      rw [Function.update_self]
      exact haddressed
    · show isMulticastEtherAddr (Function.update s.frames f frame g).attrib.ra = true →
        (Function.update s.frames f frame g).attrib.psta ≠ some p
      rw [Function.update_of_ne hg]
      exact h.sta.addressed g
  · refine haccounts.acLen.trans (List.countP_congr fun g hg => ?_)
    rw [hother g hg]
    exact Iff.rfl
  · rintro ⟨g, hg, hlegacy⟩
    rw [hother g hg] at hlegacy
    exact haccounts.announced ⟨g, hg, hlegacy⟩

theorem rtwAllocXmitframe (h : Kept p s) : Kept p s.rtwAllocXmitframe.2 := by
  unfold XmitPriv.rtwAllocXmitframe
  cases hqueue : s.queue .freeXmitQueue with
  | nil => exact h
  | cons f rest =>
    have hfree : f ∈ s.queue .freeXmitQueue := hqueue ▸ List.mem_cons_self
    have hnot : f ∉ s.queue (.sleepQ p) := fun hsleep => TxQueue.noConfusion (h.once.one f _ _ hfree hsleep)
    have htaken := h.aside (.listDel hnot)
    have hbare : Kept p ((s.listDel f).setFrame f {}) :=
      htaken.setFrame (h.once.loose_delInit f _) fun _ => (Option.some_ne_none p).symm
    exact hbare.aside (.of_same rfl rfl rfl rfl rfl rfl)

theorem tasklet (h : Kept p s) (hdeq : s.rtwDequeueXframe = some (f, s')) : Kept p (s'.rtwFreeXmitframe f) := by
  obtain ⟨n, hf, hpool⟩ := rtwDequeueXframe_some hdeq
  have hnot : f ∉ s.queue (.sleepQ p) := fun hsleep => TxQueue.noConfusion (h.once.one f _ _ hf hsleep)
  have hdequeued : Kept p s' := by
    obtain ⟨ac, -, hac⟩ := List.exists_of_findSome?_eq_some hdeq
    obtain ⟨m, -, hone⟩ := List.exists_of_findSome?_eq_some hac
    unfold dequeueOneXmitframe at hone
    split at hone
    · exact absurd hone.symm (Option.some_ne_none _)
    · dsimp only at hone
      rw [Option.some.injEq, Prod.mk.injEq] at hone
      obtain ⟨rfl, rfl⟩ := hone
      have htaken := h.aside (.listDel hnot)
      split
      · exact htaken.aside (.of_same rfl rfl rfl rfl rfl rfl)
      · exact htaken.aside (.of_same rfl rfl rfl rfl rfl rfl)
  have hqueue : s'.queue = delInit s.queue f := congrArg TxPool.queue hpool
  refine hdequeued.aside (.rtwFreeXmitframe ?_ hdequeued.once)
  rw [hqueue]
  exact h.once.loose_delInit f _

theorem psPoll (h : Kept p s) (priority : ℕ) (hclean : (SleepEvent.psPoll priority).Clean p s) :
    Kept p (s.psPoll p priority) := by
  unfold XmitPriv.psPoll
  by_cases hgate : (s.staPs p).wmmpsAc 0 priority = true
  · rw [if_pos hgate]
    exact h
  · rw [if_neg hgate]
    rw [Bool.not_eq_true] at hgate
    have halive := h.noteAlive p
    have hsame : (s.noteAlive p).queue = s.queue ∧ (s.noteAlive p).staPs = s.staPs ∧
        (s.noteAlive p).frames = s.frames ∧ (s.noteAlive p).dz = s.dz ∧
        ((s.noteAlive p).info p).aid = (s.info p).aid ∧
        ((s.noteAlive p).info p).inState WIFI_SLEEP_STATE = (s.info p).inState WIFI_SLEEP_STATE := by
      unfold XmitPriv.noteAlive
      dsimp only
      split
      · refine ⟨rfl, rfl, rfl, rfl, ?_, ?_⟩
        · rw [info_setInfo_self]
          rfl
        · rw [info_setInfo_self]
          exact ((s.info p).setExpireTo _).inState_toggleState (by decide)
      · exact ⟨rfl, rfl, rfl, rfl, rfl, rfl⟩
    obtain ⟨hqueue, hps, hframes, hdz, haid, hasleep⟩ := hsame
    dsimp only
    split
    · rename_i hanswered
      rw [Bool.and_eq_true, hasleep, haid] at hanswered
      refine halive.pollSleepq fun f rest hhead => ?_
      show ((s.noteAlive p).staPs p).wmmpsAc 0 ((s.noteAlive p).frames f).attrib.priority = false
      rw [hps, hframes]
      have hdzTest : (s.noteAlive p).padapter.stapriv.dzTest (s.info p).aid =
          s.padapter.stapriv.dzTest (s.info p).aid := congrArg (fun x => x &&& StaPriv.bitOf (s.info p).aid != 0) hdz
      exact hclean hgate hanswered.1 (hdzTest.symm.trans hanswered.2) f rest (hqueue ▸ hhead)
    · exact halive

theorem step (h : Kept p s) (hstep : CleanSleepStep p s s') : Kept p s' := by
  obtain ⟨event, hclean, hstep⟩ := hstep
  have hcall : ∀ {c : Bool} {t : XmitPriv}, (if c then some t else none) = some s' → c = true ∧ t = s' := by
    intro c t hif
    split at hif
    · rename_i hc
      exact ⟨hc, Option.some.inj hif⟩
    · exact absurd hif.symm (Option.some_ne_none s')
  cases event with
  | alloc => exact Option.some.inj hstep ▸ h.rtwAllocXmitframe
  | setFrame f frame =>
    obtain ⟨hc, rfl⟩ := hcall hstep
    rw [Bool.and_eq_true] at hc
    refine h.setFrame (loose_of_inHand hc.1 _) fun hra hpsta => ?_
    have haddressed := hc.2
    rw [addressed, hra, hpsta] at haddressed
    simp at haddressed
  | enqueue f =>
    obtain ⟨hc, rfl⟩ := hcall hstep
    exact h.xmitframeEnqueueForSleepingSta (loose_of_inHand hc _)
  | halEnqueue f =>
    obtain ⟨hc, rfl⟩ := hcall hstep
    exact h.aside (.rtwHalXmitframeEnqueue (loose_of_inHand hc) h.once)
  | tasklet =>
    obtain ⟨⟨f, t⟩, hdeq, rfl⟩ := Option.map_eq_some_iff.mp hstep
    exact h.tasklet hdeq
  | stop => exact h.stopStaXmit hstep
  | psPoll priority => exact Option.some.inj hstep ▸ h.psPoll priority hclean
  | trigger => exact Option.some.inj hstep ▸ h.xmitDeliveryEnabledFrames hclean
  | wakeup => exact Option.some.inj hstep ▸ h.wakeupStaToXmit

end Kept

/-- **The accounts of a `sleep_q`** hold in every run whose polls and triggers are clean. -/
theorem sleepq_run (p : StaId) (s s' : XmitPriv) (hsta : s.PsStation p) (honce : Once s.queue)
    (hstart : SleepqAccounts p s) (hrun : Relation.ReflTransGen (CleanSleepStep p) s s') : SleepqAccounts p s' :=
  (LoopRun.run_invariant (I := Kept p) (fun _ _ h hstep => h.step hstep) hrun
    (.of_accounts hsta honce hstart)).accounts

/-! ## A count that is not taken back -/

/-- An access point with its broadcast station and one station, whose voice category alone is enabled. -/
def voiceStaInfo (psta : StaId) : StaInfo :=
  if psta = 0 then { hwaddr := bcAddr, state := _FW_LINKED }
  else if psta = 1 then { hwaddr := cellAddr, state := _FW_LINKED, aid := 1 }
  else {}

def voiceCell : XmitPriv :=
  { rtwInitXmitPriv { fwState := WIFI_AP_STATE, stapriv := { staInfo := voiceStaInfo, staHash := fun _ => [0, 1] } }
    with staPs := fun _ => { uapsd := fun ac => if ac = .vo then 3 else 0, hasLegacyAc := true } }

def voiceFrame : TxFrame where
  attrib := { psta := some 1, ra := cellAddr, priority := 6 }

theorem voiceCell_sta : voiceCell.PsStation 1 where
  aid := by decide
  alone := by decide
  unicast := by decide
  uapsd ac := by cases ac <;> decide
  hasLegacyAc := iff_of_true rfl ⟨.be, by decide⟩
  addressed _ hra := absurd hra (by decide : ¬ isMulticastEtherAddr ({} : TxFrame).attrib.ra = true)

theorem voiceCell_accounts : SleepqAccounts 1 voiceCell where
  len := rfl
  acLen := rfl
  noUnderflow := List.not_mem_nil
  quiet _ := rfl
  announced h := absurd h (by rintro ⟨f, hf, -⟩; exact List.not_mem_nil hf)

def runSleep (p : StaId) (s : XmitPriv) (events : List SleepEvent) : Option XmitPriv :=
  events.foldlM (SleepEvent.step p) s

theorem runSleep_run (p : StaId) (events : List SleepEvent) (s s' : XmitPriv) (h : runSleep p s events = some s') :
    Relation.ReflTransGen (SleepStep p) s s' := by
  induction events generalizing s with
  | nil =>
    cases h
    exact .refl
  | cons event rest ih =>
    obtain ⟨t, ht, hrest⟩ := Option.bind_eq_some_iff.mp h
    exact .head ⟨event, ht⟩ (ih t hrest)

/-- The station sleeps, a voice frame comes for it, and it polls. -/
def pollEvents : List SleepEvent := [.alloc, .setFrame 0 voiceFrame, .stop, .enqueue 0, .psPoll 0]

set_option maxRecDepth 20000 in
theorem pollEvents_end : ∃ s, runSleep 1 voiceCell pollEvents = some s ∧ s.queue (.sleepQ 1) = [] ∧
    (s.staPs 1).sleepqAcLen = 1 :=
  ⟨_, rfl, rfl, rfl⟩

/-- The poll takes the frame and leaves it in `sleepq_ac_len`. -/
theorem sleepq_polled : ¬ ∀ (p : StaId) (s s' : XmitPriv), s.PsStation p → Once s.queue → SleepqAccounts p s →
    Relation.ReflTransGen (SleepStep p) s s' → SleepqAccounts p s' := by
  intro hall
  obtain ⟨s, hrun, hqueue, hacLen⟩ := pollEvents_end
  have hs := (hall 1 voiceCell s voiceCell_sta (rtwInitXmitPriv_owned _).once voiceCell_accounts
    (runSleep_run 1 _ _ _ hrun)).acLen
  rw [hqueue, hacLen] at hs
  exact Nat.one_ne_zero hs

set_option maxRecDepth 20000 in
theorem sleepq_run_enqueued : ∃ s, runSleep 1 voiceCell [.alloc, .setFrame 0 voiceFrame, .stop, .enqueue 0] = some s ∧
    SleepqAccounts 1 s :=
  ⟨_, rfl, sleepq_run 1 voiceCell _ voiceCell_sta (rtwInitXmitPriv_owned _).once voiceCell_accounts
    (.tail (.tail (.tail (.tail .refl ⟨.alloc, trivial, rfl⟩) ⟨.setFrame 0 voiceFrame, trivial, rfl⟩)
      ⟨.stop, trivial, rfl⟩) ⟨.enqueue 0, trivial, rfl⟩)⟩

end XmitPriv

end Rtl8723au
