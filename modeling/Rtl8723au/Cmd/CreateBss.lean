import Rtl8723au.Cmd.Thread
import Rtl8723au.Mlme.JoinRequest

/-! The callback of a create-BSS command, `rtw_createbss_cmd_callback` of `core/rtw_cmd.c`, as `rtw_cmd_thread` calls it: the
two tables, the timer of the join, the indication of a connection and what is freed. -/
namespace Rtl8723au
namespace CreateBss
set_option autoImplicit false

/-- The members of the adapter with what the callback tells the system and what it frees. -/
structure CreateBssState where
  mlme : MlmeJoin
  indicated : ℕ := 0
  freed : List MemBlock := []

namespace CreateBssState

def onMlme (s : CreateBssState) (f : MlmeJoin → MlmeJoin) : CreateBssState := { s with mlme := f s.mlme }

/-- `_set_timer` of `assoc_timer`. -/
def setAssocTimer (s : CreateBssState) : CreateBssState := s.onMlme (·.setAssocTimer true)

/-- `_cancel_timer` of `assoc_timer`. -/
def cancelAssocTimer (s : CreateBssState) : CreateBssState := s.onMlme (·.setAssocTimer false)

/-- `rtw_indicate_connect`. -/
def rtwIndicateConnect (s : CreateBssState) : CreateBssState :=
  { s.onMlme (·.rtwIndicateConnect) with indicated := s.indicated + 1 }

def rtwFreeCmdObj (s : CreateBssState) (pcmd : CmdObj) : CreateBssState :=
  { s with freed := s.freed ++ pcmd.rtwFreeCmdObj }

/-- The branch of an access point: the entry of its own station, found or allocated. -/
def ownStation (s : CreateBssState) (pnetwork : WlanBssidEx) : CreateBssState :=
  match rtwGetStainfo s.mlme.stapriv (some pnetwork.macAddress) with
  | some _ => s.rtwIndicateConnect
  | none =>
    match rtwAllocStainfo s.mlme.stapriv pnetwork.macAddress with
    | (_, none) => s
    | (sp, some _) => (s.onMlme fun m => { m with stapriv := sp }).rtwIndicateConnect

/-- The other branch: the cell is put among the scanned networks and becomes the current network. -/
def ownCell (s : CreateBssState) (pnetwork : WlanBssidEx) (now : BitVec 32) : CreateBssState :=
  s.onMlme fun m => m.onScanned (·.rtwCreatebssCmdCallback pnetwork false now)

/-- `rtw_createbss_cmd_callback`; `pnetwork` is what `parmbuf` points to. -/
def rtwCreatebssCmdCallback (s : CreateBssState) (pcmd : CmdObj) (res : ℕ) (pnetwork : WlanBssidEx) (now : BitVec 32) :
    CreateBssState :=
  -- the branch sets the timer, and does not leave the function
  let s := if res ≠ CmdObj.H2C_SUCCESS then s.setAssocTimer else s
  let s := s.cancelAssocTimer
  let s := if s.mlme.checkFwstate WIFI_AP_STATE then s.ownStation pnetwork else s.ownCell pnetwork now
  s.rtwFreeCmdObj pcmd

/-- `rtw_joinbss_cmd_callback`, which does the same for the command that joins a network. -/
def rtwJoinbssCmdCallback (s : CreateBssState) (pcmd : CmdObj) (res : ℕ) : CreateBssState :=
  let s := if res = CmdObj.H2C_DROPPED then s.setAssocTimer else if res ≠ CmdObj.H2C_SUCCESS then s.setAssocTimer else s
  s.rtwFreeCmdObj pcmd

end CreateBssState

open CreateBssState

/-! ## What a failed command is to leave -/

/-- The tables, the current network and the state bits are as they were, no connection is indicated, the timer will deal
with the failure, and the command is freed once. -/
structure LeftToTimer (s t : CreateBssState) (pcmd : CmdObj) : Prop where
  stations : t.mlme.stapriv = s.mlme.stapriv
  networks : t.mlme.scanned.entry = s.mlme.scanned.entry ∧ t.mlme.scanned.queue = s.mlme.scanned.queue
  current : t.mlme.scanned.curNetwork = s.mlme.scanned.curNetwork
  bits : t.mlme.scanned.fwState = s.mlme.scanned.fwState
  silent : t.indicated = s.indicated
  armed : t.mlme.assocTimer = true
  freed : t.freed.count (pcmd.block .obj) = s.freed.count (pcmd.block .obj) + 1

/-! ## What it leaves -/

theorem count_rtwFreeCmdObj (pcmd : CmdObj) : pcmd.rtwFreeCmdObj.count (pcmd.block .obj) = 1 := by
  have hother : ∀ part, part ≠ Part.obj → [pcmd.block part].count (pcmd.block .obj) = 0 := by
    intro part hpart
    rw [List.count_eq_zero, List.mem_singleton]
    intro h
    exact hpart (MemBlock.mk.inj h).2.symm
  have hparm : (if pcmd.cmdcode ≠ _JoinBss_CMD_ ∧ pcmd.cmdcode ≠ _CreateBss_CMD_ then [pcmd.block .parmbuf] else []).count
      (pcmd.block .obj) = 0 := by
    split
    · exact hother _ (by decide)
    · rfl
  have hrsp : (if pcmd.rsp ∧ pcmd.rspsz ≠ 0 then [pcmd.block (if pcmd.callersRsp then .callersRsp else .ownRsp)]
      else []).count (pcmd.block .obj) = 0 := by
    split
    · apply hother
      split <;> decide
    · rfl
  rw [CmdObj.rtwFreeCmdObj, List.count_append, List.count_append, hparm, hrsp, List.count_singleton_self]

theorem CreateBssState.count_freed (s : CreateBssState) (pcmd : CmdObj) :
    (s.rtwFreeCmdObj pcmd).freed.count (pcmd.block .obj) = s.freed.count (pcmd.block .obj) + 1 := by
  rw [CreateBssState.rtwFreeCmdObj, List.count_append, count_rtwFreeCmdObj]

theorem leftToTimer_rtwJoinbssCmdCallback (s : CreateBssState) (pcmd : CmdObj) {res : ℕ} (hres : res ≠ CmdObj.H2C_SUCCESS) :
    LeftToTimer s (s.rtwJoinbssCmdCallback pcmd res) pcmd := by
  have hset : s.rtwJoinbssCmdCallback pcmd res = s.setAssocTimer.rtwFreeCmdObj pcmd := by
    rw [rtwJoinbssCmdCallback, if_pos hres, ite_self]
  rw [hset]
  exact ⟨rfl, ⟨rfl, rfl⟩, rfl, rfl, rfl, rfl, s.setAssocTimer.count_freed pcmd⟩

section
variable (s : CreateBssState) (pcmd : CmdObj) (pnetwork : WlanBssidEx) (now : BitVec 32)

theorem rtwCreatebssCmdCallback_eq (res : ℕ) :
    s.rtwCreatebssCmdCallback pcmd res pnetwork now = s.rtwCreatebssCmdCallback pcmd CmdObj.H2C_SUCCESS pnetwork now := by
  have hcancel : (if res ≠ CmdObj.H2C_SUCCESS then s.setAssocTimer else s).cancelAssocTimer = s.cancelAssocTimer := by
    split <;> rfl
  rw [rtwCreatebssCmdCallback, rtwCreatebssCmdCallback, hcancel, if_neg (not_not.mpr rfl)]

theorem assocTimer_ownStation : (s.ownStation pnetwork).mlme.assocTimer = s.mlme.assocTimer := by
  rw [ownStation]
  split
  · rfl
  split <;> rfl

theorem assocTimer_rtwCreatebssCmdCallback (res : ℕ) :
    (s.rtwCreatebssCmdCallback pcmd res pnetwork now).mlme.assocTimer = false := by
  rw [rtwCreatebssCmdCallback_eq, rtwCreatebssCmdCallback, if_neg (not_not.mpr rfl)]
  show (ite _ _ _ : CreateBssState).mlme.assocTimer = false
  split
  · exact assocTimer_ownStation s.cancelAssocTimer pnetwork
  · rfl

end

/-- **A failed create-BSS is always taken for a success**: the callback does what it does for a command that succeeded, and
no timer is left to deal with the failure. -/
theorem failure_taken_for_success (s : CreateBssState) (pcmd : CmdObj) (res : ℕ) (pnetwork : WlanBssidEx)
    (now : BitVec 32) (_hres : res ≠ CmdObj.H2C_SUCCESS) :
    ¬ LeftToTimer s (s.rtwCreatebssCmdCallback pcmd res pnetwork now) pcmd ∧
      s.rtwCreatebssCmdCallback pcmd res pnetwork now = s.rtwCreatebssCmdCallback pcmd CmdObj.H2C_SUCCESS pnetwork now := by
  refine ⟨fun h => ?_, rtwCreatebssCmdCallback_eq s pcmd pnetwork now res⟩
  have htimer := assocTimer_rtwCreatebssCmdCallback s pcmd pnetwork now res
  rw [h.armed] at htimer
  exact absurd htimer (by decide)

/-- An adapter behind its initialisation, and a command for a cell of its own. -/
def freshState : CreateBssState where
  mlme := { scanned := Scanned.rtwInitMlmePriv }

def createCmd : CmdObj := { cmdcode := _CreateBss_CMD_ }

theorem failure_taken_for_success_dropped :
    ¬ LeftToTimer freshState (freshState.rtwCreatebssCmdCallback createCmd CmdObj.H2C_DROPPED {} 0) createCmd ∧
      freshState.rtwCreatebssCmdCallback createCmd CmdObj.H2C_DROPPED {} 0 =
        freshState.rtwCreatebssCmdCallback createCmd CmdObj.H2C_SUCCESS {} 0 :=
  failure_taken_for_success freshState createCmd CmdObj.H2C_DROPPED {} 0 (by decide)

/-- The cell of a command that was dropped is put among the scanned networks. -/
theorem not_leftToTimer_dropped :
    ¬ LeftToTimer freshState (freshState.rtwCreatebssCmdCallback createCmd CmdObj.H2C_DROPPED {} 0) createCmd := by
  intro h
  have hqueue := congrFun h.networks.2 .scannedQueue
  revert hqueue
  decide

end CreateBss

end Rtl8723au
