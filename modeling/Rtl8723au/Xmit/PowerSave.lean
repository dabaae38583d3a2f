import Rtl8723au.Xmit.Queues

/-! What sleeping stations are sent: the frames that wait in their `sleep_q`, and the ways out of it, of
`core/rtw_xmit.c`, `core/rtw_recv.c` and `core/rtw_sta_mgt.c`. The rewriting of the beacon is left out. -/
namespace Rtl8723au
open Intrusive
set_option autoImplicit false

/-- The bit of `uapsd_vo`, `uapsd_vi`, `uapsd_be` or `uapsd_bk`. -/
def StaPs.wmmpsAc (ps : StaPs) (bit up : ℕ) : Bool := (ps.uapsd (acOf up)).testBit bit

/-- `pstapriv->sta_dz_bitmap & BIT(aid)`. -/
def StaPriv.dzTest (sp : StaPriv) (aid : ℕ) : Bool := sp.staDzBitmap &&& StaPriv.bitOf aid != 0

namespace XmitPriv

section Parts
variable (s : XmitPriv)

def info (psta : StaId) : StaInfo := s.padapter.staInfo psta

def dz : BitVec 16 := s.padapter.stapriv.staDzBitmap

def timSet (aid : ℕ) : XmitPriv := s.setTim (s.timBitmap ||| StaPriv.bitOf aid)

def timClear (aid : ℕ) : XmitPriv := s.setTim (s.timBitmap &&& ~~~StaPriv.bitOf aid)

def dzSet (aid : ℕ) : XmitPriv := s.setDz (s.dz ||| StaPriv.bitOf aid)

def dzClear (aid : ℕ) : XmitPriv := s.setDz (s.dz &&& ~~~StaPriv.bitOf aid)

def noteWrap (psta : StaId) (n : ℕ) : XmitPriv :=
  { s with wrapped := s.wrapped ++ if n = 0 then [psta] else [] }

def setLen (psta : StaId) (n : ℕ) : XmitPriv := s.setInfo psta ((s.info psta).setSleepqLen n)

def setAcLen (psta : StaId) (n : ℕ) : XmitPriv := s.setPs psta { s.staPs psta with sleepqAcLen := n }

/-- `psta->sleepq_len--`. -/
def lenDec (psta : StaId) : XmitPriv :=
  (s.noteWrap psta (s.info psta).sleepqLen).setLen psta (uint ((s.info psta).sleepqLen - 1))

/-- `psta->sleepq_ac_len--`. -/
def acLenDec (psta : StaId) : XmitPriv :=
  (s.noteWrap psta (s.staPs psta).sleepqAcLen).setAcLen psta (uint ((s.staPs psta).sleepqAcLen - 1))

end Parts

/-! ## Falling asleep -/

section Sleep
variable (s : XmitPriv) (f : XmitFrameId)

/-- The frame goes to `psta->sleep_q`, and `psta->sleepq_len++`. -/
def sleepqAdd (psta : StaId) : XmitPriv :=
  ((s.listDel f).listAdd (.sleepQ psta) f).setLen psta (uint ((s.info psta).sleepqLen + 1))

/-- `xmitframe_enqueue_for_sleeping_sta` for a broadcast or multicast frame. -/
def enqueueBmc (psta : StaId) : Bool × XmitPriv :=
  if s.dz = 0 then (false, s) else (true, ((s.sleepqAdd f psta).timSet 0).dzSet 0)

/-- The counter and the TIM bit of a frame that went to the queue of `psta`. -/
def noteSleeping (psta : StaId) : XmitPriv :=
  let ps := s.staPs psta
  let wmmpsAc := ps.wmmpsAc 0 (s.frames f).attrib.priority
  let s := if wmmpsAc then s.setAcLen psta (uint (ps.sleepqAcLen + 1)) else s
  if (ps.hasLegacyAc && !wmmpsAc) || (!ps.hasLegacyAc && wmmpsAc) then s.timSet (s.info psta).aid else s

/-- `xmitframe_enqueue_for_sleeping_sta` for a unicast frame. -/
def enqueueUnicast (psta : StaId) : Bool × XmitPriv :=
  if (s.info psta).inState WIFI_SLEEP_STATE && s.padapter.stapriv.dzTest (s.info psta).aid then
    (true, (s.sleepqAdd f psta).noteSleeping f psta)
  else (false, s)

/-- `xmitframe_enqueue_for_sleeping_sta`. -/
def xmitframeEnqueueForSleepingSta : Bool × XmitPriv :=
  let a := (s.frames f).attrib
  let bmcst := isMulticastEtherAddr a.ra
  if s.padapter.checkFwstate WIFI_AP_STATE then
    match xmitSta s.padapter a.toPktAttrib with
    | none => (false, s)
    | some psta =>
      if a.triggered then (false, if bmcst then s.setAttrib f { a with qsel := 0x11 } else s)
      else if bmcst then s.enqueueBmc f psta
      else s.enqueueUnicast f psta
  else (false, s)

/-- What `xmitframe_enqueue_for_sleeping_sta` can do. -/
inductive SleepOutcome : Bool × XmitPriv → Prop where
  | awake : SleepOutcome (false, s)
  | highQueue (htriggered : (s.frames f).attrib.triggered = true) :
      SleepOutcome (false, s.setAttrib f { (s.frames f).attrib with qsel := 0x11 })
  | bmc (psta : StaId) (hap : s.padapter.checkFwstate WIFI_AP_STATE = true)
      (hsta : xmitSta s.padapter (s.frames f).attrib.toPktAttrib = some psta)
      (htriggered : (s.frames f).attrib.triggered = false)
      (hra : isMulticastEtherAddr (s.frames f).attrib.ra = true) (hdz : s.dz ≠ 0) :
      SleepOutcome (true, ((s.sleepqAdd f psta).timSet 0).dzSet 0)
  | unicast (psta : StaId) (hap : s.padapter.checkFwstate WIFI_AP_STATE = true)
      (hsta : xmitSta s.padapter (s.frames f).attrib.toPktAttrib = some psta)
      (htriggered : (s.frames f).attrib.triggered = false)
      (hra : isMulticastEtherAddr (s.frames f).attrib.ra = false)
      (hasleep : (s.info psta).inState WIFI_SLEEP_STATE = true)
      (hdz : s.padapter.stapriv.dzTest (s.info psta).aid = true) :
      SleepOutcome (true, (s.sleepqAdd f psta).noteSleeping f psta)

theorem xmitframeEnqueueForSleepingSta_outcome :
    SleepOutcome s f (s.xmitframeEnqueueForSleepingSta f) := by
  unfold xmitframeEnqueueForSleepingSta
  dsimp only
  by_cases hap : s.padapter.checkFwstate WIFI_AP_STATE = true
  · rw [if_pos hap]
    cases hsta : xmitSta s.padapter (s.frames f).attrib.toPktAttrib with
    | none => exact .awake
    | some psta =>
      dsimp only
      by_cases htriggered : (s.frames f).attrib.triggered = true
      · rw [if_pos htriggered]
        split
        · exact .highQueue htriggered
        · exact .awake
      · rw [if_neg htriggered]
        rw [Bool.not_eq_true] at htriggered
        by_cases hra : isMulticastEtherAddr (s.frames f).attrib.ra = true
        · rw [if_pos hra, enqueueBmc]
          by_cases hdz : s.dz = 0
          · rw [if_pos hdz]
            exact .awake
          · rw [if_neg hdz]
            exact .bmc psta hap hsta htriggered hra hdz
        · rw [if_neg hra, enqueueUnicast]
          rw [Bool.not_eq_true] at hra
          by_cases hasleep : ((s.info psta).inState WIFI_SLEEP_STATE &&
              s.padapter.stapriv.dzTest (s.info psta).aid) = true
          · rw [if_pos hasleep]
            rw [Bool.and_eq_true] at hasleep
            exact .unicast psta hap hsta htriggered hra hasleep.1 hasleep.2
          · rw [if_neg hasleep]
            exact .awake
  · rw [if_neg hap]
    exact .awake

end Sleep

/-- A turn of `dequeue_xmitframes_to_sleeping_queue`. -/
def sleepTurn (psta : StaId) (s : XmitPriv) (f : XmitFrameId) : XmitPriv :=
  match s.xmitframeEnqueueForSleepingSta f with
  | (true, s) => s.count (psta, acOf (s.frames f).attrib.priority) (acOf (s.frames f).attrib.priority) (-1)
  | (false, s) => s

/-- `dequeue_xmitframes_to_sleeping_queue` with the `list_del_init` that follows it. -/
def stopServq (psta : StaId) (s : XmitPriv) (ac : Ac) : XmitPriv :=
  ((s.queue (.staPending (psta, ac))).foldl (sleepTurn psta) s).txPendingDel (psta, ac)

/-- `stop_sta_xmit` up to the queues. -/
def markSleeping (s : XmitPriv) (psta : StaId) : XmitPriv :=
  (s.setInfo psta ((s.info psta).setState WIFI_SLEEP_STATE)).dzSet (s.info psta).aid

/-- `stop_sta_xmit`; without a broadcast station it follows a null pointer. -/
def stopStaXmit (s : XmitPriv) (psta : StaId) : Option XmitPriv :=
  (rtwGetBcmcStainfo s.padapter.stapriv).map fun pstaBmc =>
    stopServq pstaBmc ([Ac.vo, .vi, .be, .bk].foldl (stopServq psta) (s.markSleeping psta)) .be

/-! ## Delivery -/

/-- A frame off its `sleep_q` is marked and handed on. -/
def deliver (s : XmitPriv) (f : XmitFrameId) (attrib : TxAttrib) : XmitPriv :=
  (s.setAttrib f { attrib with triggered := true }).rtwHalXmitframeEnqueue f

/-- `mdata` while `n` frames are left. -/
def withMdata (a : TxAttrib) (n : ℕ) : TxAttrib := { a with mdata := decide (0 < n) }

/-- `mdata` and `eosp` while `n` frames of delivery-enabled categories are left. -/
def withEosp (a : TxAttrib) (n : ℕ) : TxAttrib :=
  { a with mdata := decide (0 < n), eosp := if 0 < n then 0 else 1 }

/-- The first loop of `wakeup_sta_to_xmit`. -/
def wakeupTurn (psta : StaId) (s : XmitPriv) (f : XmitFrameId) : XmitPriv :=
  let a := (s.frames f).attrib
  let s := (s.listDel f).lenDec psta
  let a' := withMdata a (s.info psta).sleepqLen
  if (s.staPs psta).wmmpsAc 1 a.priority then
    let s := s.acLenDec psta
    s.deliver f (withEosp a' (s.staPs psta).sleepqAcLen)
  else s.deliver f a'

/-- The loop over the queue of the broadcast station. -/
def wakeupBmcTurn (pstaBmc : StaId) (s : XmitPriv) (f : XmitFrameId) : XmitPriv :=
  let a := (s.frames f).attrib
  let s := (s.listDel f).lenDec pstaBmc
  s.deliver f (withMdata a (s.info pstaBmc).sleepqLen)

/-- What `wakeup_sta_to_xmit` does to a station that nothing waits for any more. -/
def wakeSta (s : XmitPriv) (psta : StaId) : XmitPriv :=
  let s := s.timClear (s.info psta).aid
  (s.setInfo psta (wakeupInfo s.padapter.stapriv.expireTo (s.info psta))).dzClear (s.info psta).aid

/-- `wakeup_sta_to_xmit` up to the broadcast frames. -/
def wakeupUnicast (s : XmitPriv) (psta : StaId) : XmitPriv :=
  let s := (s.queue (.sleepQ psta)).foldl (wakeupTurn psta) s
  if (s.info psta).sleepqLen = 0 then s.wakeSta psta else s

/-- The broadcast frames, when no station sleeps. -/
def wakeupBmc (s : XmitPriv) : XmitPriv :=
  match rtwGetBcmcStainfo s.padapter.stapriv with
  | none => s
  | some pstaBmc =>
    if s.dz &&& 0xfffe = 0 then
      let s := (s.queue (.sleepQ pstaBmc)).foldl (wakeupBmcTurn pstaBmc) s
      if (s.info pstaBmc).sleepqLen = 0 then (s.timClear 0).dzClear 0 else s
    else s

/-- `wakeup_sta_to_xmit`. -/
def wakeupStaToXmit (s : XmitPriv) (psta : StaId) : XmitPriv := (s.wakeupUnicast psta).wakeupBmc

/-- The answer to a PS-Poll of a sleeping station: the first frame, if there is one. `issue_nulldata`
is left out. -/
def pollSleepq (s : XmitPriv) (psta : StaId) : XmitPriv :=
  match s.queue (.sleepQ psta) with
  | f :: _ =>
    let a := (s.frames f).attrib
    let s := (s.listDel f).lenDec psta
    let s := s.deliver f (withMdata a (s.info psta).sleepqLen)
    if (s.info psta).sleepqLen = 0 then s.timClear (s.info psta).aid else s
  | [] =>
    if s.timBitmap &&& StaPriv.bitOf (s.info psta).aid ≠ 0 then
      (s.setLen psta 0).timClear (s.info psta).aid
    else s

def noteAlive (s : XmitPriv) (psta : StaId) : XmitPriv :=
  let info := s.info psta
  if info.inState WIFI_STA_ALIVE_CHK_STATE then
    s.setInfo psta ((info.setExpireTo s.padapter.stapriv.expireTo).toggleState WIFI_STA_ALIVE_CHK_STATE)
  else s

/-- `validate_recv_ctrl_frame` for a PS-Poll of `psta`. -/
def psPoll (s : XmitPriv) (psta : StaId) (priority : ℕ) : XmitPriv :=
  if (s.staPs psta).wmmpsAc 0 priority then s
  else
    let s := s.noteAlive psta
    if (s.info psta).inState WIFI_SLEEP_STATE && s.padapter.stapriv.dzTest (s.info psta).aid then
      s.pollSleepq psta
    else s

/-- A turn of `xmit_delivery_enabled_frames`. -/
def triggerTurn (psta : StaId) (s : XmitPriv) (f : XmitFrameId) : XmitPriv :=
  let a := (s.frames f).attrib
  if (s.staPs psta).wmmpsAc 1 a.priority then
    let s := ((s.listDel f).lenDec psta).acLenDec psta
    let s := s.deliver f (withEosp a (s.staPs psta).sleepqAcLen)
    if (s.staPs psta).sleepqAcLen = 0 ∧ (s.staPs psta).hasLegacyAc = false then s.timClear (s.info psta).aid
    else s
  else s

/-- `xmit_delivery_enabled_frames`. -/
def xmitDeliveryEnabledFrames (s : XmitPriv) (psta : StaId) : XmitPriv :=
  (s.queue (.sleepQ psta)).foldl (triggerTurn psta) s

/-! ## Leaving -/

/-- What `rtw_free_stainfo` does to the queues. -/
def freeQueues (s : XmitPriv) (psta : StaId) : XmitPriv :=
  [Ac.vo, .vi, .be, .bk].foldl (fun s ac => s.freeServq (psta, ac)) (s.rtwFreeXmitframeQueue (.sleepQ psta))

/-- `rtw_free_stainfo`. -/
def rtwFreeStainfo (s : XmitPriv) (psta : StaId) : XmitPriv :=
  let aid := (s.info psta).aid
  let s := (s.freeQueues psta).setPs psta {}
  let s := { s with padapter := { s.padapter with stapriv := Rtl8723au.rtwFreeStainfo s.padapter.stapriv psta } }
  if 31 < aid then s else s.timClear aid

end XmitPriv

/-! ## Stations that stay as they are -/

/-- What decides whose frame a frame is, and whether that station is asleep, but for `sta_dz_bitmap`. -/
structure SameSta (a a' : RtwAdapter) : Prop where
  fwState : a'.fwState = a.fwState
  staHash : a'.stapriv.staHash = a.stapriv.staHash
  hwaddr : ∀ p, (a'.staInfo p).hwaddr = (a.staInfo p).hwaddr
  state : ∀ p, (a'.staInfo p).state = (a.staInfo p).state
  aid : ∀ p, (a'.staInfo p).aid = (a.staInfo p).aid

namespace SameSta
variable {a a' a'' : RtwAdapter}

theorem refl (a : RtwAdapter) : SameSta a a := ⟨rfl, rfl, fun _ => rfl, fun _ => rfl, fun _ => rfl⟩

theorem trans (h : SameSta a a') (h' : SameSta a' a'') : SameSta a a'' where
  fwState := h'.fwState.trans h.fwState
  staHash := h'.staHash.trans h.staHash
  hwaddr p := (h'.hwaddr p).trans (h.hwaddr p)
  state p := (h'.state p).trans (h.state p)
  aid p := (h'.aid p).trans (h.aid p)

theorem inState (h : SameSta a a') (p : StaId) (bit : BitVec 32) :
    (a'.staInfo p).inState bit = (a.staInfo p).inState bit := by
  rw [StaInfo.inState, StaInfo.inState, h.state p]

theorem rtwGetStainfo (h : SameSta a a') (hwaddr : Option MacAddr) :
    rtwGetStainfo a'.stapriv hwaddr = rtwGetStainfo a.stapriv hwaddr := by
  cases hwaddr with
  | none => rfl
  | some hwaddr =>
    unfold Rtl8723au.rtwGetStainfo
    dsimp only
    rw [h.staHash]
    congr 1
    funext psta
    exact congrArg (· == _) (h.hwaddr psta)

theorem xmitSta (h : SameSta a a') (pattrib : PktAttrib) : xmitSta a' pattrib = xmitSta a pattrib := by
  have hlinked : linkedSta a' = linkedSta a := by
    funext psta
    rw [linkedSta, linkedSta, h.inState]
  unfold Rtl8723au.xmitSta
  rw [h.rtwGetStainfo, hlinked]

/-- The length of a `sleep_q` is nobody's address or state. -/
theorem setLen (s : XmitPriv) (psta : StaId) (n : ℕ) : SameSta s.padapter (s.setLen psta n).padapter := by
  have hinfo : ∀ {β : Type} (get : StaInfo → β), get ((s.info psta).setSleepqLen n) = get (s.info psta) →
      ∀ p, get ((s.setLen psta n).padapter.staInfo p) = get (s.padapter.staInfo p) := by
    intro β get hget p
    show get (Function.update s.padapter.stapriv.staInfo psta ((s.info psta).setSleepqLen n) p) = _
    by_cases hp : p = psta
    · subst hp
      rw [Function.update_self, hget]
      rfl
    · rw [Function.update_of_ne hp]
      rfl
  exact ⟨rfl, rfl, hinfo (·.hwaddr) rfl, hinfo (·.state) rfl, hinfo (·.aid) rfl⟩

end SameSta

end Rtl8723au
