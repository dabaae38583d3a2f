import Rtl8723au.Xmit.PowerSave

/-! The way of a packet into the queues and out to the bus: `rtw_xmit` of `core/rtw_xmit.c`,
`pre_xmitframe`, `rtw_dump_xframe` and `rtl8192cu_xmitframe_complete` of `hal/rtl8723au_xmit.c`. What
`rtw_xmitframe_coalesce` does to the buffer is left out: `coalesced` is `nr_frags` when it succeeds. -/
namespace Rtl8723au
open Intrusive
set_option autoImplicit false

namespace XmitPriv

/-! ## Buffers -/

/-- `rtw_alloc_xmitbuf`. -/
def rtwAllocXmitbuf (s : XmitPriv) : Option XmitBufId × XmitPriv :=
  match s.freeXmitbufQueue with
  | [] => (none, s)
  | b :: rest => (some b, { s with freeXmitbufQueue := rest })

/-- `rtw_free_xmitbuf`. -/
def rtwFreeXmitbuf (s : XmitPriv) (b : XmitBufId) : XmitPriv :=
  { s with freeXmitbufQueue := s.freeXmitbufQueue.erase b ++ [b] }

/-- The transfers of a buffer are over; `usb_write_port_complete` frees it. -/
def usbWritePortComplete (s : XmitPriv) (b : XmitBufId) : XmitPriv :=
  { s with writePort := s.writePort.filter (· != b) }.rtwFreeXmitbuf b

/-- `rtw_dump_xframe`: each MPDU is handed on in the same buffer. -/
def rtwDumpXframe (s : XmitPriv) (f : XmitFrameId) (b : XmitBufId) (nrFrags : ℕ) : XmitPriv :=
  { s with writePort := s.writePort ++ List.replicate nrFrags b }.rtwFreeXmitframe f

/-- `rtw_os_xmit_complete`. -/
def rtwOsXmitComplete (s : XmitPriv) (f : XmitFrameId) : XmitPriv :=
  (s.osPktComplete (s.frames f).pkt).setFrame f { s.frames f with pkt := none }

/-! ## The tasklet -/

/-- `rtl8192cu_xmitframe_complete` without a buffer of the caller's; a priority above 15 is not coalesced,
and `nr_frags` stays. -/
def xmitframeComplete (s : XmitPriv) (coalesced : Option ℕ) : Bool × XmitPriv :=
  match s.rtwAllocXmitbuf with
  | (none, s) => (false, s)
  | (some b, s) =>
    match s.rtwDequeueXframe with
    | none => (false, s.rtwFreeXmitbuf b)
    | some (f, s) =>
      let a := (s.frames f).attrib
      let res := if a.priority ≤ 15 then coalesced else some a.nrFrags
      let s := s.rtwOsXmitComplete f
      match res with
      | some nrFrags => (true, s.rtwDumpXframe f b nrFrags)
      | none => (true, (s.rtwFreeXmitbuf b).rtwFreeXmitframe f)

/-! ## `pre_xmitframe` -/

/-- `do_queue_select`. -/
def doQueueSelect (a : TxAttrib) : TxAttrib := { a with qsel := a.priority }

/-- `rtw_txframes_sta_ac_pending`. -/
def rtwTxframesStaAcPending (s : XmitPriv) (a : TxAttrib) : ℤ :=
  match xmitSta s.padapter a.toPktAttrib with
  | none => 0
  | some psta => s.qcnt (psta, acOf a.priority)

/-- The label `enqueue` of `pre_xmitframe`. -/
def preEnqueue (s : XmitPriv) (f : XmitFrameId) : Bool × XmitPriv :=
  match s.rtwXmitClassifier f with
  | (true, s) => (false, s)
  | (false, s) => (true, s.rtwFreeXmitframe f)

def xmitframeDirect (s : XmitPriv) (f : XmitFrameId) (b : XmitBufId) (coalesced : Option ℕ) : XmitPriv :=
  match coalesced with
  | some nrFrags => s.rtwDumpXframe f b nrFrags
  | none => (s.rtwFreeXmitbuf b).rtwFreeXmitframe f

/-- `pre_xmitframe` for a frame that was not put to sleep. -/
def preAwake (s : XmitPriv) (f : XmitFrameId) (coalesced : Option ℕ) : Bool × XmitPriv :=
  if 0 < s.rtwTxframesStaAcPending (s.frames f).attrib then s.preEnqueue f
  else if s.padapter.checkFwstate (_FW_UNDER_SURVEY ||| WIFI_UNDER_LINKING) then s.preEnqueue f
  else
    match s.rtwAllocXmitbuf with
    | (none, s) => s.preEnqueue f
    | (some b, s) => (true, s.xmitframeDirect f b coalesced)

/-- A station for which more than an eighth of the frames wait is woken. -/
def wakeCrowded (s : XmitPriv) (a : TxAttrib) : XmitPriv :=
  match frameSta s.padapter a.toPktAttrib with
  | none => s
  | some psta => if NR_XMITFRAME / 8 < (s.info psta).sleepqLen then s.wakeupStaToXmit psta else s

/-- `pre_xmitframe`. -/
def preXmitframe (s : XmitPriv) (f : XmitFrameId) (coalesced : Option ℕ) : Bool × XmitPriv :=
  match (s.setAttrib f (doQueueSelect (s.frames f).attrib)).xmitframeEnqueueForSleepingSta f with
  | (true, s) => (false, s.wakeCrowded (s.frames f).attrib)
  | (false, s) => s.preAwake f coalesced

/-! ## `rtw_xmit` -/

/-- What `rtw_xmit` returns below zero, and otherwise. -/
inductive XmitRet where
  | fail
  | success
  | enqueue
  deriving DecidableEq

/-- `rtw_xmit` behind `update_attrib`. -/
def xmitAttached (s : XmitPriv) (f : XmitFrameId) (coalesced : Option ℕ) : XmitRet × XmitPriv :=
  match (s.setAttrib f (doQueueSelect (s.frames f).attrib)).xmitframeEnqueueForSleepingSta f with
  | (true, s) => (.enqueue, s)
  | (false, s) =>
    match s.preXmitframe f coalesced with
    | (true, s) => (.success, s)
    | (false, s) => (.enqueue, s)

/-- `rtw_xmit`. -/
def rtwXmit (s : XmitPriv) (junk : UInt8) (pkt : SkBuff) (coalesced : Option ℕ) : XmitRet × XmitPriv :=
  match s.rtwAllocXmitframe with
  | (none, s) => (.fail, s)
  | (some f, s) =>
    match updateAttrib s.padapter junk pkt.data (s.frames f).attrib.toPktAttrib with
    | none => (.fail, s.rtwFreeXmitframe f)
    | some a => (s.setFrame f ⟨⟨a, false, 0⟩, some pkt⟩).xmitAttached f coalesced

end XmitPriv

end Rtl8723au
