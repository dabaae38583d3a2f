import Rtl8723au.Library.GuardedRuns
import Rtl8723au.Xmit.SubmitCtx

/-! The management frames of `core/rtw_mlme_ext.c` on their way to the device: `alloc_mgtxmitframe`, `dump_mgntframe`,
`dump_mgntframe_and_wait`, the submission in `os_dep/usb_ops_linux.c` and its completion. The context of a call that
waits lies on its stack, and the buffer points to it. -/
namespace Rtl8723au
set_option autoImplicit false

/-- How far a call has come. A call that waits enters `dump_mgntframe_and_wait`, attaches its context, submits, waits
and detaches; the others are ready once `dump_mgntframe` is entered. -/
inductive MgntPhase
  | allocated
  | entered
  | ready
  | submitted
  | waiting
  | woken
  | detaching (ret : Bool)
  | returned (ret : Bool)
  deriving DecidableEq

/-- The transfer of a frame; `signalled` is between the two halves of `usb_write_port_complete`. -/
inductive Transfer
  | unsent
  | refused
  | flying
  | signalled
  | freed
  deriving DecidableEq

/-- A call from `alloc_mgtxmitframe` on, with its `struct submit_ctx` and what has happened to it. -/
structure MgntCall where
  frame : ℕ
  buf : ℕ
  wait : Bool
  phase : MgntPhase := .allocated
  ctx : SubmitCtx := .rtwSctxInit
  transfer : Transfer := .unsent
  frameFreed : ℕ := 0
  bufFreed : ℕ := 0
  /-- The transfer has completed with status 0 before the wait was over. -/
  okInTime : Bool := false

/-- What `usb_submit_urb` returns. -/
inductive SubmitRet
  | ok
  | ENODEV
  | failed
  deriving DecidableEq

/-- `purb->status`. -/
inductive UrbStatus
  | ok
  | EPIPE
  | EPROTO
  | EINPROGRESS
  | ENOENT
  | ECONNRESET
  | ESHUTDOWN
  | other
  deriving DecidableEq

/-- The pools, the flags of the adapter, `pxmitbuf->sctx` of each buffer and the calls; `late` are the calls whose
context was written after they had returned. -/
structure MgntXmit where
  freeFrames : List ℕ
  freeBufs : List ℕ
  sctx : ℕ → Option ℕ := fun _ => none
  bDriverStopped : Bool := false
  bSurpriseRemoved : Bool := false
  bWritePortCancel : Bool := false
  pnpBstopTrx : Bool := false
  calls : ℕ → Option MgntCall := fun _ => none
  count : ℕ := 0
  late : List ℕ := []

/-- The steps of a call. -/
inductive CallEvent
  | enter
  | attach
  | submit (ret : SubmitRet)
  | freeFrame
  | wake
  | read
  | timeout
  | detach
  | urbSignal (status : UrbStatus)
  | urbFree
  deriving DecidableEq

inductive MgntEvent
  | alloc (wait : Bool)
  | call (i : ℕ) (e : CallEvent)
  | stop
  | remove
  | cancel (b : Bool)
  | pnp (b : Bool)
  deriving DecidableEq

namespace MgntXmit

def modify (s : MgntXmit) (i : ℕ) (f : MgntCall → MgntCall) : MgntXmit :=
  { s with calls := Function.update s.calls i ((s.calls i).map f) }

def hasReturned (s : MgntXmit) (i : ℕ) : Bool :=
  match s.calls i with
  | some c =>
    match c.phase with
    | .returned _ => true
    | _ => false
  | none => false

/-- `rtw_sctx_done_err` on `pxmitbuf->sctx`. -/
def rtwSctxDoneErr (s : MgntXmit) (buf : ℕ) (status : SctxStatus) : MgntXmit :=
  match s.sctx buf with
  | none => s
  | some j =>
    { s.modify j (fun c => { c with ctx := c.ctx.rtwSctxDoneErr status }) with
      sctx := Function.update s.sctx buf none
      late := if s.hasReturned j then j :: s.late else s.late }

/-- `rtw_free_xmitbuf` of the buffer of a call. -/
def rtwFreeXmitbuf (s : MgntXmit) (i buf : ℕ) : MgntXmit :=
  let s := s.rtwSctxDoneErr buf .DONE_BUF_FREE
  { s.modify i (fun c => { c with bufFreed := c.bufFreed + 1 }) with freeBufs := s.freeBufs ++ [buf] }

/-- `alloc_mgtxmitframe`; nothing comes of it when a pool is empty. -/
def alloc (s : MgntXmit) (wait : Bool) : MgntXmit :=
  match s.freeFrames, s.freeBufs with
  | [], _ => s
  | frame :: frames, [] => { s with freeFrames := frames ++ [frame] }
  | frame :: frames, buf :: bufs =>
    let s := { s with freeFrames := frames, freeBufs := bufs }.rtwSctxDoneErr buf .DONE_BUF_ALLOC
    { s with
      calls := Function.update s.calls s.count (some { frame := frame, buf := buf, wait := wait })
      count := s.count + 1 }

/-- The check of `dump_mgntframe` and `dump_mgntframe_and_wait`. -/
def enter (s : MgntXmit) (i : ℕ) (c : MgntCall) : Option MgntXmit :=
  match c.phase with
  | .allocated =>
    if s.bSurpriseRemoved || s.bDriverStopped then some (s.modify i fun c => { c with phase := .returned false })
    else some (s.modify i fun c => { c with phase := if c.wait then .entered else .ready })
  | _ => none

/-- `rtw_sctx_init`, and the buffer points to the context. -/
def attach (s : MgntXmit) (i : ℕ) (c : MgntCall) : Option MgntXmit :=
  match c.phase with
  | .entered =>
    some { s.modify i (fun c => { c with ctx := .rtwSctxInit, phase := .ready }) with
           sctx := Function.update s.sctx c.buf (some i) }
  | _ => none

def refuse (s : MgntXmit) (i : ℕ) (c : MgntCall) (status : SctxStatus) : MgntXmit :=
  ((s.rtwSctxDoneErr c.buf status).rtwFreeXmitbuf i c.buf).modify i fun c =>
    { c with transfer := .refused, phase := .submitted }

/-- `usb_write_port`. -/
def submit (s : MgntXmit) (i : ℕ) (c : MgntCall) (ret : SubmitRet) : Option MgntXmit :=
  match c.phase with
  | .ready =>
    if s.bDriverStopped || s.bSurpriseRemoved || s.pnpBstopTrx then some (s.refuse i c .DONE_TX_DENY)
    else
      match ret with
      | .ok => some (s.modify i fun c => { c with transfer := .flying, phase := .submitted })
      | .ENODEV => some { s.refuse i c .DONE_WRITE_PORT_ERR with bDriverStopped := true }
      | .failed => some (s.refuse i c .DONE_WRITE_PORT_ERR)
  | _ => none

/-- The end of `rtw_dump_xframe`: the frame goes back whatever has become of the buffer, and `_SUCCESS` is returned. -/
def freeFrame (s : MgntXmit) (i : ℕ) (c : MgntCall) : Option MgntXmit :=
  match c.phase with
  | .submitted =>
    some { s.modify i (fun c => { c with
             frameFreed := c.frameFreed + 1
             phase := if c.wait then .waiting else .returned true }) with
           freeFrames := s.freeFrames ++ [c.frame] }
  | _ => none

def wake (s : MgntXmit) (i : ℕ) (c : MgntCall) : Option MgntXmit :=
  match c.phase with
  | .waiting => if c.ctx.done = 0 then none else some (s.modify i fun c => { c with ctx := c.ctx.take, phase := .woken })
  | _ => none

def read (s : MgntXmit) (i : ℕ) (c : MgntCall) : Option MgntXmit :=
  match c.phase with
  | .woken => some (s.modify i fun c => { c with phase := .detaching (SubmitCtx.waitRet c.ctx.status) })
  | _ => none

def timeout (s : MgntXmit) (i : ℕ) (c : MgntCall) : Option MgntXmit :=
  match c.phase with
  | .waiting =>
    if c.ctx.done = 0 then some (s.modify i fun c => { c with phase := .detaching (SubmitCtx.waitRet .DONE_TIMEOUT) })
    else none
  | _ => none

/-- `pxmitbuf->sctx = NULL` under `lock_sctx`, whoever has the buffer now. -/
def detach (s : MgntXmit) (i : ℕ) (c : MgntCall) : Option MgntXmit :=
  match c.phase with
  | .detaching ret =>
    some { s.modify i (fun c => { c with phase := .returned ret }) with sctx := Function.update s.sctx c.buf none }
  | _ => none

/-- What `usb_write_port_complete` makes of the status. -/
def urbFlags (s : MgntXmit) (status : UrbStatus) : MgntXmit :=
  if s.bSurpriseRemoved || s.bDriverStopped || s.bWritePortCancel then s
  else
    match status with
    | .ESHUTDOWN => { s with bDriverStopped := true }
    | .other => { s with bSurpriseRemoved := true }
    | _ => s

def MgntPhase.inTime : MgntPhase → Bool
  | .submitted | .waiting => true
  | _ => false

/-- `usb_write_port_complete` up to `check_completion` and under `lock_sctx`. -/
def urbSignal (s : MgntXmit) (i : ℕ) (c : MgntCall) (status : UrbStatus) : Option MgntXmit :=
  match c.transfer with
  | .flying =>
    some (((s.urbFlags status).rtwSctxDoneErr c.buf
        (if status = .ok then .DONE_SUCCESS else .DONE_WRITE_PORT_ERR)).modify i fun c =>
      { c with transfer := .signalled, okInTime := c.okInTime || decide (status = .ok) && MgntPhase.inTime c.phase })
  | _ => none

/-- Its `rtw_free_xmitbuf`. -/
def urbFree (s : MgntXmit) (i : ℕ) (c : MgntCall) : Option MgntXmit :=
  match c.transfer with
  | .signalled => some ((s.rtwFreeXmitbuf i c.buf).modify i fun c => { c with transfer := .freed })
  | _ => none

def callStep (s : MgntXmit) (i : ℕ) (c : MgntCall) : CallEvent → Option MgntXmit
  | .enter => s.enter i c
  | .attach => s.attach i c
  | .submit ret => s.submit i c ret
  | .freeFrame => s.freeFrame i c
  | .wake => s.wake i c
  | .read => s.read i c
  | .timeout => s.timeout i c
  | .detach => s.detach i c
  | .urbSignal status => s.urbSignal i c status
  | .urbFree => s.urbFree i c

def step (s : MgntXmit) : MgntEvent → Option MgntXmit
  | .alloc wait => some (s.alloc wait)
  | .call i e => (s.calls i).bind fun c => s.callStep i c e
  | .stop => some { s with bDriverStopped := true }
  | .remove => some { s with bSurpriseRemoved := true }
  | .cancel b => some { s with bWritePortCancel := b }
  | .pnp b => some { s with pnpBstopTrx := b }

/-! ## What is asked of it -/

def pending (c : MgntCall) : Bool := decide (c.transfer = .flying ∨ c.transfer = .signalled)

/-- Frames and buffers come back once, a call that waits returns what its own transfer has come to, and no context is
written after its call has returned. -/
structure Accounted (s : MgntXmit) : Prop where
  frames : s.freeFrames.Nodup
  bufs : s.freeBufs.Nodup
  atMostOnce : ∀ i c, s.calls i = some c → c.frameFreed ≤ 1 ∧ c.bufFreed ≤ 1
  comeBack : ∀ i c ret, s.calls i = some c → c.phase = .returned ret → pending c = false →
    c.frameFreed = 1 ∧ c.bufFreed = 1
  reports : ∀ i c ret, s.calls i = some c → c.wait = true → c.phase = .returned ret → (ret = true ↔ c.okInTime = true)
  late : s.late = []

/-- The flags are not set when a frame is dumped, and the buffer of a call that detaches does not point to the context
of another one. -/
def Undisturbed (s : MgntXmit) : MgntEvent → Prop
  | .call _ .enter => s.bSurpriseRemoved = false ∧ s.bDriverStopped = false
  | .call i .detach => ∀ c ∈ s.calls i, ∀ j ∈ s.sctx c.buf, j = i
  | _ => True

end MgntXmit

end Rtl8723au
