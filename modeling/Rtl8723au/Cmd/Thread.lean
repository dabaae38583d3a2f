import Mathlib.Data.List.Basic
import Mathlib.Tactic

/-! The command queue of `core/rtw_cmd.c`: `rtw_enqueue_cmd`, the thread that runs the commands, and the
callbacks that free them. Of a command only its code, what it points to and its result are kept; a piece of
memory is named by the command it was given with. -/
namespace Rtl8723au
set_option autoImplicit false

/-! ## Commands -/

def _Read_BBREG_CMD_ : ℕ := 2
def _Read_RFREG_CMD_ : ℕ := 4
def _JoinBss_CMD_ : ℕ := 14
def _DisConnect_CMD_ : ℕ := 15
def _CreateBss_CMD_ : ℕ := 16
def _SiteSurvey_CMD_ : ℕ := 18
def _SetStaKey_CMD_ : ℕ := 21
def _SetAssocSta_CMD_ : ℕ := 22
def _Set_Drv_Extra_CMD_ : ℕ := 57
def _SetChannelPlan_CMD_ : ℕ := 59

def POWER_SAVING_CTRL_WK_CID : ℤ := 4

/-- `struct drvextra_cmd_parm`; `pbuf` tells whether the pointer is set. -/
structure DrvextraCmdParm where
  ecId : ℤ := 0
  typeSize : ℤ := 0
  pbuf : Bool := false
  deriving DecidableEq

/-- `struct cmd_obj`. `drvextra` is what `parmbuf` holds for `_Set_Drv_Extra_CMD_`; `rsp` tells whether that
pointer is set and `callersRsp` whether the buffer belongs to the caller. -/
structure CmdObj where
  id : ℕ := 0
  cmdcode : ℕ
  drvextra : DrvextraCmdParm := {}
  rsp : Bool := false
  rspsz : ℕ := 0
  callersRsp : Bool := false
  deriving DecidableEq

inductive Part
  | obj
  | parmbuf
  | pbuf
  | callersRsp
  | ownRsp
  deriving DecidableEq

structure MemBlock where
  id : ℕ
  part : Part
  deriving DecidableEq

namespace CmdObj

def block (c : CmdObj) (part : Part) : MemBlock := ⟨c.id, part⟩

/-- `rtw_free_cmd_obj`: what it frees. -/
def rtwFreeCmdObj (pcmd : CmdObj) : List MemBlock :=
  (if pcmd.cmdcode ≠ _JoinBss_CMD_ ∧ pcmd.cmdcode ≠ _CreateBss_CMD_ then [pcmd.block .parmbuf] else []) ++
    (if pcmd.rsp ∧ pcmd.rspsz ≠ 0 then [pcmd.block (if pcmd.callersRsp then .callersRsp else .ownRsp)] else []) ++
    [pcmd.block .obj]

/-- `rtw_drvextra_cmd_hdl`: what it frees. -/
def rtwDrvextraCmdHdl (pcmd : CmdObj) : List MemBlock :=
  if pcmd.drvextra.pbuf ∧ 0 < pcmd.drvextra.typeSize then [pcmd.block .pbuf] else []

end CmdObj

/-- The size of `wlancmds` and of `rtw_cmd_callback`. -/
def WLANCMDS_SIZE : ℕ := 63

/-- The codes whose entry in `wlancmds` has a handler. -/
def wlancmdsHdl (cmdcode : ℕ) : Bool := cmdcode ∈ [14, 15, 16, 17, 18, 19, 20, 21, 45, 46, 55, 56, 57, 58, 59, 60, 61, 62]

namespace CmdObj

def H2C_SUCCESS : ℕ := 0x00
def H2C_DROPPED : ℕ := 0x03
def H2C_PARAMETERS_ERROR : ℕ := 0x04

def rtwGetbbrfregCmdrspCallback (pcmd : CmdObj) : List MemBlock := [pcmd.block .parmbuf, pcmd.block .obj]

def rtwDisassocCmdCallback (pcmd : CmdObj) (res : ℕ) : List MemBlock :=
  if res ≠ H2C_SUCCESS then [] else pcmd.rtwFreeCmdObj

def rtwJoinbssCmdCallback (pcmd : CmdObj) : List MemBlock := pcmd.rtwFreeCmdObj
def rtwCreatebssCmdCallback (pcmd : CmdObj) : List MemBlock := pcmd.rtwFreeCmdObj
def rtwSurveyCmdCallback (pcmd : CmdObj) : List MemBlock := pcmd.rtwFreeCmdObj
def rtwSetstaKeyCmdrspCallback (pcmd : CmdObj) : List MemBlock := pcmd.rtwFreeCmdObj
def rtwSetassocstaCmdrspCallback (pcmd : CmdObj) : List MemBlock := pcmd.rtwFreeCmdObj

/-- The table `rtw_cmd_callback`: what the callback of a code frees. -/
def rtwCmdCallback (cmdcode : ℕ) : Option (CmdObj → ℕ → List MemBlock) :=
  if cmdcode = _Read_BBREG_CMD_ then some fun pcmd _ => pcmd.rtwGetbbrfregCmdrspCallback
  else if cmdcode = _Read_RFREG_CMD_ then some fun pcmd _ => pcmd.rtwGetbbrfregCmdrspCallback
  else if cmdcode = _JoinBss_CMD_ then some fun pcmd _ => pcmd.rtwJoinbssCmdCallback
  else if cmdcode = _DisConnect_CMD_ then some rtwDisassocCmdCallback
  else if cmdcode = _CreateBss_CMD_ then some fun pcmd _ => pcmd.rtwCreatebssCmdCallback
  else if cmdcode = _SiteSurvey_CMD_ then some fun pcmd _ => pcmd.rtwSurveyCmdCallback
  else if cmdcode = _SetStaKey_CMD_ then some fun pcmd _ => pcmd.rtwSetstaKeyCmdrspCallback
  else if cmdcode = _SetAssocSta_CMD_ then some fun pcmd _ => pcmd.rtwSetassocstaCmdrspCallback
  else none

/-- `post_process` of `rtw_cmd_thread`. -/
def postProcess (pcmd : CmdObj) (res : ℕ) : List MemBlock :=
  if pcmd.cmdcode < WLANCMDS_SIZE then
    match rtwCmdCallback pcmd.cmdcode with
    | none => pcmd.rtwFreeCmdObj
    | some pcmdCallback => pcmdCallback pcmd res
  else pcmd.rtwFreeCmdObj

end CmdObj

/-! ## The thread -/

/-- Where `rtw_cmd_thread` stands. -/
inductive ThreadPc
  -- not started, or at its end
  | stopped
  -- in front of `down_interruptible`
  | waiting
  -- at the label `_next`
  | next
  -- the command is out of the queue
  | running (pcmd : CmdObj)
  -- at the label `post_process`
  | post (pcmd : CmdObj) (res : ℕ)
  -- out of the loop
  | leaving
  -- in the loop that frees what is left
  | draining
  deriving DecidableEq

/-- `struct cmd_priv`, the flags of the adapter that are read, and the history: the commands passed to
`rtw_enqueue_cmd`, those accepted, those whose handler ran, and what was freed. -/
structure CmdPriv where
  cmdQueue : List CmdObj := []
  cmdQueueSema : ℕ := 0
  cmdthdRunning : Bool := false
  hwInitCompleted : Bool := false
  bHWPwrPindetect : Bool := false
  usbssEnable : Bool := false
  bDriverStopped : Bool := false
  bSurpriseRemoved : Bool := false
  pc : ThreadPc := .stopped
  passed : List CmdObj := []
  accepted : List CmdObj := []
  executed : List CmdObj := []
  freed : List MemBlock := []

namespace CmdPriv

/-- `rtw_cmd_filter`: whether the command may go on. -/
def rtwCmdFilter (s : CmdPriv) (c : CmdObj) : Bool :=
  let bAllow :=
    (s.bHWPwrPindetect && !s.usbssEnable && c.cmdcode == _Set_Drv_Extra_CMD_ &&
      c.drvextra.ecId == POWER_SAVING_CTRL_WK_CID) ||
    c.cmdcode == _SetChannelPlan_CMD_
  !((!s.hwInitCompleted && !bAllow) || !s.cmdthdRunning)

/-- `rtw_enqueue_cmd` of a command that the caller has just allocated. -/
def rtwEnqueueCmd (s : CmdPriv) (cmd : CmdObj) : CmdPriv :=
  let c := { cmd with id := s.passed.length }
  if s.rtwCmdFilter c then
    { s with
      cmdQueue := s.cmdQueue ++ [c]
      cmdQueueSema := s.cmdQueueSema + 1
      passed := s.passed ++ [c]
      accepted := s.accepted ++ [c] }
  else { s with passed := s.passed ++ [c], freed := s.freed ++ c.rtwFreeCmdObj }

/-- From one place of `rtw_cmd_thread` to the next. `interrupted` is the result of `down_interruptible` and
`ret` that of the command's handler. -/
def threadStep (s : CmdPriv) (interrupted : Bool) (ret : ℕ) : CmdPriv :=
  match s.pc with
  | .stopped => s
  | .waiting =>
    if interrupted then { s with pc := .leaving }
    else if s.cmdQueueSema = 0 then s
    else
      { s with
        cmdQueueSema := s.cmdQueueSema - 1
        pc := if s.bDriverStopped || s.bSurpriseRemoved then .leaving else .next }
  | .next =>
    if s.bDriverStopped || s.bSurpriseRemoved then { s with pc := .leaving }
    else
      match s.cmdQueue with
      | [] => { s with pc := .waiting }
      | pcmd :: rest => { s with cmdQueue := rest, pc := .running pcmd }
  | .running pcmd =>
    if !s.rtwCmdFilter pcmd then { s with pc := .post pcmd CmdObj.H2C_DROPPED }
    else if pcmd.cmdcode < WLANCMDS_SIZE then
      if wlancmdsHdl pcmd.cmdcode then
        { s with
          executed := s.executed ++ [pcmd]
          freed := s.freed ++ if pcmd.cmdcode = _Set_Drv_Extra_CMD_ then pcmd.rtwDrvextraCmdHdl else []
          pc := .post pcmd (if pcmd.cmdcode = _Set_Drv_Extra_CMD_ then CmdObj.H2C_SUCCESS else ret) }
      else { s with pc := .post pcmd CmdObj.H2C_SUCCESS }
    else { s with pc := .post pcmd CmdObj.H2C_PARAMETERS_ERROR }
  | .post pcmd res => { s with freed := s.freed ++ pcmd.postProcess res, pc := .next }
  | .leaving => { s with cmdthdRunning := false, pc := .draining }
  | .draining =>
    match s.cmdQueue with
    | [] => { s with pc := .stopped }
    | pcmd :: rest => { s with cmdQueue := rest, freed := s.freed ++ pcmd.rtwFreeCmdObj }

inductive Event
  | enqueue (cmd : CmdObj)
  | thread (interrupted : Bool) (ret : ℕ)
  -- `rtw_start_drv_threads`, while the thread does not run
  | start
  -- `up` of the semaphore by `rtw_stop_drv_threads`
  | up
  | flags (hwInitCompleted bHWPwrPindetect usbssEnable bDriverStopped bSurpriseRemoved : Bool)

def step (s : CmdPriv) : Event → CmdPriv
  | .enqueue cmd => s.rtwEnqueueCmd cmd
  | .thread interrupted ret => s.threadStep interrupted ret
  | .start =>
    match s.pc with
    | .stopped => { s with cmdthdRunning := true, pc := .waiting }
    | _ => s
  | .up => { s with cmdQueueSema := s.cmdQueueSema + 1 }
  | .flags hwInitCompleted bHWPwrPindetect usbssEnable bDriverStopped bSurpriseRemoved =>
    { s with
      hwInitCompleted := hwInitCompleted
      bHWPwrPindetect := bHWPwrPindetect
      usbssEnable := usbssEnable
      bDriverStopped := bDriverStopped
      bSurpriseRemoved := bSurpriseRemoved }

def run (s : CmdPriv) (events : List Event) : CmdPriv := events.foldl step s

end CmdPriv

end Rtl8723au
