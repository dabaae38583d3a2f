import Rtl8723au.Ap.Expire
import Rtl8723au.Library.Intrusive
import Rtl8723au.Xmit.Attrib

/-! The transmit frames of `struct xmit_priv` and the queues they are linked into: the free queue, the
queues of each station with their counters in `hwxmits`, and its `sleep_q`; `core/rtw_xmit.c`. -/
namespace Rtl8723au
open Intrusive
set_option autoImplicit false

def NR_XMITBUFF : ℕ := 4
def _FW_UNDER_SURVEY : ℕ := 0x0800

/-! ## The data -/

/-- A frame of `pxmit_frame_buf`. -/
abbrev XmitFrameId := Fin 256

/-- A buffer of `pxmitbuf`. -/
abbrev XmitBufId := Fin 4

deriving instance DecidableEq for EthFrame

/-- An `sk_buff`; `id` tells two with the same bytes apart. -/
structure SkBuff where
  id : ℕ
  data : EthFrame
  deriving DecidableEq

/-- The members of `struct pkt_attrib` that only the queues look at. -/
structure TxAttrib extends PktAttrib where
  triggered : Bool := false
  qsel : ℕ := 0

/-- `struct xmit_frame` as the queues hold it. -/
structure TxFrame where
  attrib : TxAttrib := {}
  pkt : Option SkBuff := none

/-- The access categories, in the order of `hwxmits`. -/
inductive Ac where
  | vo
  | vi
  | be
  | bk
  deriving DecidableEq

instance : Fintype Ac := ⟨{.vo, .vi, .be, .bk}, fun ac => by cases ac <;> decide⟩

instance lawfulBEq_pending : LawfulBEq (StaId × Ac) := inferInstance

/-- The category that every `switch` on a priority takes. -/
def acOf (up : ℕ) : Ac :=
  match up with
  | 1 | 2 => .bk
  | 4 | 5 => .vi
  | 6 | 7 => .vo
  | _ => .be

/-- A `struct tx_servq`, one of the four of a station. -/
abbrev TxServq := StaId × Ac

/-- The queues of frames. -/
inductive TxQueue where
  | freeXmitQueue
  | staPending (servq : TxServq)
  | sleepQ (psta : StaId)
  deriving DecidableEq

/-- `wmm_para_seq`, a permutation of the categories. -/
structure WmmParaSeq where
  seq : List Ac := [.vo, .vi, .be, .bk]
  length : seq.length = 4 := by decide
  all : ∀ ac, ac ∈ seq := by decide

/-- The members of `struct sta_info` for the delivery of what a sleeping station is sent. -/
structure StaPs where
  sleepqAcLen : ℕ := 0
  uapsd : Ac → ℕ := fun _ => 0
  hasLegacyAc : Bool := false

/-- `struct xmit_priv` with its adapter. A node of `hwxmits[ac].sta_queue` is the `tx_pending` of a
`tx_servq`. `writePort` and `completed` list what is handed to `rtw_write_port` and
`rtw_os_pkt_complete`, `wrapped` the stations one of whose two counters was counted down from zero. -/
structure XmitPriv where
  padapter : RtwAdapter := {}
  frames : XmitFrameId → TxFrame := fun _ => {}
  queue : TxQueue → List XmitFrameId
  freeXmitframeCnt : ℕ
  qcnt : TxServq → ℤ := fun _ => 0
  staQueue : Ac → List TxServq := fun _ => []
  accnt : Ac → ℤ := fun _ => 0
  wmmParaSeq : WmmParaSeq := {}
  staPs : StaId → StaPs := fun _ => {}
  timBitmap : BitVec 16 := 0
  freeXmitbufQueue : List XmitBufId
  writePort : List XmitBufId := []
  completed : List SkBuff := []
  wrapped : List StaId := []

namespace XmitPriv

/-- `_rtw_init_xmit_priv`. -/
def rtwInitXmitPriv (padapter : RtwAdapter) : XmitPriv where
  padapter := padapter
  queue
    | .freeXmitQueue => List.finRange 256
    | _ => []
  freeXmitframeCnt := NR_XMITFRAME
  freeXmitbufQueue := List.finRange 4

section Parts
variable (s : XmitPriv)

def setFrame (f : XmitFrameId) (frame : TxFrame) : XmitPriv :=
  { s with frames := Function.update s.frames f frame }

def setAttrib (f : XmitFrameId) (attrib : TxAttrib) : XmitPriv :=
  s.setFrame f { s.frames f with attrib := attrib }

/-- `list_del_init(&pxmitframe->list)`. -/
def listDel (f : XmitFrameId) : XmitPriv := { s with queue := delInit s.queue f }

/-- `list_add_tail(&pxmitframe->list, ..)`. -/
def listAdd (q : TxQueue) (f : XmitFrameId) : XmitPriv := { s with queue := addTail s.queue q f }

/-- Adds to `ptxservq->qcnt` and to `phwxmits[ac].accnt`. -/
def count (n : TxServq) (ac : Ac) (k : ℤ) : XmitPriv :=
  { s with
    qcnt := Function.update s.qcnt n (s.qcnt n + k)
    accnt := Function.update s.accnt ac (s.accnt ac + k) }

/-- `list_del_init(&ptxservq->tx_pending)`. -/
def txPendingDel (n : TxServq) : XmitPriv := { s with staQueue := delInit s.staQueue n }

/-- `list_add_tail` of a `tx_pending` that is in no list. -/
def txPendingAdd (n : TxServq) : XmitPriv :=
  if ∀ ac, n ∉ s.staQueue ac then { s with staQueue := addTail s.staQueue n.2 n } else s

def setInfo (psta : StaId) (info : StaInfo) : XmitPriv :=
  { s with padapter := s.padapter.setInfo psta info }

def setPs (psta : StaId) (ps : StaPs) : XmitPriv :=
  { s with staPs := Function.update s.staPs psta ps }

def setTim (timBitmap : BitVec 16) : XmitPriv := { s with timBitmap := timBitmap }

def setDz (staDzBitmap : BitVec 16) : XmitPriv :=
  { s with padapter := { s.padapter with stapriv := { s.padapter.stapriv with staDzBitmap := staDzBitmap } } }

/-- `rtw_os_pkt_complete` for a packet that is there. -/
def osPktComplete (pkt : Option SkBuff) : XmitPriv := { s with completed := s.completed ++ pkt.toList }

end Parts

/-! ## Frames -/

/-- `rtw_alloc_xmitframe` with `rtw_init_xmitframe`. -/
def rtwAllocXmitframe (s : XmitPriv) : Option XmitFrameId × XmitPriv :=
  match s.queue .freeXmitQueue with
  | [] => (none, s)
  | f :: _ =>
    let s := (s.listDel f).setFrame f {}
    (some f, { s with freeXmitframeCnt := uint (s.freeXmitframeCnt - 1) })

/-- `rtw_free_xmitframe` for a frame of `pxmit_frame_buf`. -/
def rtwFreeXmitframe (s : XmitPriv) (f : XmitFrameId) : XmitPriv :=
  let pndisPkt := (s.frames f).pkt
  let s := s.setFrame f { s.frames f with pkt := none }
  let s := (s.listDel f).listAdd .freeXmitQueue f
  let s := { s with freeXmitframeCnt := uint (s.freeXmitframeCnt + 1) }
  s.osPktComplete pndisPkt

/-- `rtw_free_xmitframe_queue`. -/
def rtwFreeXmitframeQueue (s : XmitPriv) (q : TxQueue) : XmitPriv := (s.queue q).foldl rtwFreeXmitframe s

/-! ## The queues of the stations -/

/-- `rtw_xmit_classifier`. -/
def rtwXmitClassifier (s : XmitPriv) (f : XmitFrameId) : Bool × XmitPriv :=
  let a := (s.frames f).attrib
  match xmitSta s.padapter a.toPktAttrib with
  | none => (false, s)
  | some psta =>
    let ptxservq := (psta, acOf a.priority)
    (true, ((s.txPendingAdd ptxservq).listAdd (.staPending ptxservq) f).count ptxservq ptxservq.2 1)

/-- `rtl8723au_hal_xmitframe_enqueue`. -/
def rtwHalXmitframeEnqueue (s : XmitPriv) (f : XmitFrameId) : XmitPriv :=
  match s.rtwXmitClassifier f with
  | (true, s) => s
  | (false, s) => s.rtwFreeXmitframe f

/-- `dequeue_one_xmitframe` and what `rtw_dequeue_xframe` does with the frame it gives. -/
def dequeueOneXmitframe (s : XmitPriv) (ac : Ac) (ptxservq : TxServq) : Option (XmitFrameId × XmitPriv) :=
  match s.queue (.staPending ptxservq) with
  | [] => none
  | f :: rest =>
    let s := (s.listDel f).count ptxservq ac (-1)
    some (f, if rest = [] then s.txPendingDel ptxservq else s)

/-- `inx`. -/
def inx (s : XmitPriv) : List Ac :=
  if s.padapter.wifiSpec = 1 then s.wmmParaSeq.seq else [.vo, .vi, .be, .bk]

/-- `rtw_dequeue_xframe`. -/
def rtwDequeueXframe (s : XmitPriv) : Option (XmitFrameId × XmitPriv) :=
  s.inx.findSome? fun ac => (s.staQueue ac).findSome? (s.dequeueOneXmitframe ac)

/-- What `rtw_free_stainfo` does to one `tx_servq`. -/
def freeServq (s : XmitPriv) (ptxservq : TxServq) : XmitPriv :=
  let s := (s.rtwFreeXmitframeQueue (.staPending ptxservq)).txPendingDel ptxservq
  { s with
    accnt := Function.update s.accnt ptxservq.2 (s.accnt ptxservq.2 - s.qcnt ptxservq)
    qcnt := Function.update s.qcnt ptxservq 0 }

end XmitPriv

end Rtl8723au
