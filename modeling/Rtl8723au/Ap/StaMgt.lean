import Rtl8723au.Include.Adapter

/-! The station table of `core/rtw_sta_mgt.c`: allocating an entry, freeing it, and the access list.
The transmit queues and timers of a station are left out. -/
namespace Rtl8723au
set_option autoImplicit false

/-! ## The bits of `state` -/

def _FW_LINKED : BitVec 32 := 0x00000001
def WIFI_SLEEP_STATE : BitVec 32 := 0x00000004
def WIFI_STA_ALIVE_CHK_STATE : BitVec 32 := 0x00000400
def WIFI_FW_AUTH_NULL : BitVec 32 := 0x00000100
def WIFI_FW_AUTH_STATE : BitVec 32 := 0x00000200
def WIFI_FW_AUTH_SUCCESS : BitVec 32 := 0x00000400
def WIFI_FW_ASSOC_STATE : BitVec 32 := 0x00002000
def WIFI_FW_ASSOC_SUCCESS : BitVec 32 := 0x00004000

namespace StaInfo

def inState (psta : StaInfo) (bit : BitVec 32) : Bool := psta.state &&& bit != 0

def setState (psta : StaInfo) (bit : BitVec 32) : StaInfo := { psta with state := psta.state ||| bit }

def clearState (psta : StaInfo) (bit : BitVec 32) : StaInfo :=
  { psta with state := psta.state &&& ~~~bit }

def toggleState (psta : StaInfo) (bit : BitVec 32) : StaInfo := { psta with state := psta.state ^^^ bit }

def setAid (psta : StaInfo) (aid : ℕ) : StaInfo := { psta with aid := aid }

def setExpireTo (psta : StaInfo) (expireTo : ℕ) : StaInfo := { psta with expireTo := expireTo }

def setSleepqLen (psta : StaInfo) (len : ℕ) : StaInfo := { psta with sleepqLen := len }

def setKeepAliveTrycnt (psta : StaInfo) (n : UInt8) : StaInfo := { psta with keepAliveTrycnt := n }

def setAuthSeq (psta : StaInfo) (seq : ℕ) : StaInfo := { psta with authSeq := seq }

def setAuthalg (psta : StaInfo) (algorithm : ℕ) : StaInfo := { psta with authalg := algorithm }

end StaInfo

/-! ## Intrusive lists -/

/-- `list_del_init` on the node a station has in the list. -/
def listDelInit (l : List StaId) (psta : StaId) : List StaId := l.filter (· != psta)

namespace StaPriv

def setInfo (sp : StaPriv) (psta : StaId) (info : StaInfo) : StaPriv :=
  { sp with staInfo := Function.update sp.staInfo psta info }

def authListDel (sp : StaPriv) (psta : StaId) : StaPriv :=
  { sp with authList := listDelInit sp.authList psta, authListCnt := sp.authListCnt - 1 }

/-- `list_del_init` guarded by `list_empty`. -/
def authListRemove (sp : StaPriv) (psta : StaId) : StaPriv :=
  if psta ∈ sp.authList then sp.authListDel psta else sp

def authListAdd (sp : StaPriv) (psta : StaId) : StaPriv :=
  { sp with authList := sp.authList ++ [psta], authListCnt := sp.authListCnt + 1 }

def asocListDel (sp : StaPriv) (psta : StaId) : StaPriv :=
  { sp with asocList := listDelInit sp.asocList psta, asocListCnt := sp.asocListCnt - 1 }

def asocListAdd (sp : StaPriv) (psta : StaId) : StaPriv :=
  { sp with asocList := sp.asocList ++ [psta], asocListCnt := sp.asocListCnt + 1 }

/-- The slot of `sta_aid` for an association identifier between 1 and `NUM_STA`. -/
def aidSlot (aid : ℕ) : Fin 32 := Fin.ofNat 32 (aid - 1)

def bitOf (aid : ℕ) : BitVec 16 := 1 <<< aid

def dzClear (sp : StaPriv) (aid : ℕ) : StaPriv :=
  { sp with staDzBitmap := sp.staDzBitmap &&& ~~~bitOf aid }

def dzSet (sp : StaPriv) (aid : ℕ) : StaPriv :=
  { sp with staDzBitmap := sp.staDzBitmap ||| bitOf aid }

def setSlot (sp : StaPriv) (aid : ℕ) (psta : Option StaId) : StaPriv :=
  { sp with staAid := Function.update sp.staAid (aidSlot aid) psta }

def hashAdd (sp : StaPriv) (index : Fin 32) (psta : StaId) : StaPriv :=
  { sp with
    staHash := Function.update sp.staHash index (sp.staHash index ++ [psta])
    asocStaCount := sp.asocStaCount + 1 }

def hashDel (sp : StaPriv) (psta : StaId) : StaPriv :=
  { sp with
    staHash := fun index => listDelInit (sp.staHash index) psta
    asocStaCount := sp.asocStaCount - 1 }

def setFreeStaQueue (sp : StaPriv) (queue : List StaId) : StaPriv := { sp with freeStaQueue := queue }

end StaPriv

/-! ## Allocating and freeing -/

def initStainfo : StaInfo := {}

/-- `_rtw_init_sta_priv`. -/
def rtwInitStaPriv : StaPriv :=
  { staInfo := fun _ => initStainfo
    freeStaQueue := List.finRange 32
    authTo := 3
    assocTo := 3
    expireTo := 3
    maxNumSta := NUM_STA }

/-- `_rtw_init_stainfo`, with the address and the sequence numbers of an allocated station. -/
def allocInfo (hwaddr : MacAddr) : StaInfo :=
  { initStainfo with hwaddr := hwaddr, tidRxseq := fun _ => 0xffff }

/-- `rtw_alloc_stainfo`. -/
def rtwAllocStainfo (pstapriv : StaPriv) (hwaddr : MacAddr) : StaPriv × Option StaId :=
  match pstapriv.freeStaQueue with
  | [] => (pstapriv, none)
  | psta :: rest =>
    let pstapriv := (pstapriv.setFreeStaQueue rest).setInfo psta (allocInfo hwaddr)
    (pstapriv.hashAdd (wifiMacHash hwaddr) psta, some psta)

def unlinkInfo (info : StaInfo) : StaInfo :=
  ((info.clearState _FW_LINKED).setSleepqLen 0).setExpireTo 0

/-- The part of `rtw_free_stainfo` in front of the test of the association identifier. -/
def unlinkStainfo (pstapriv : StaPriv) (psta : StaId) : StaPriv :=
  ((pstapriv.setInfo psta (unlinkInfo (pstapriv.staInfo psta))).hashDel psta).authListRemove psta

/-- The part of `rtw_free_stainfo` that gives the slot of `sta_aid` back. -/
def releaseAid (pstapriv : StaPriv) (psta : StaId) (aid : ℕ) : StaPriv :=
  if 0 < aid ∧ pstapriv.staAid (StaPriv.aidSlot aid) = some psta then
    ((pstapriv.dzClear aid).setSlot aid none).setInfo psta ((pstapriv.staInfo psta).setAid 0)
  else pstapriv.dzClear aid

/-- `rtw_free_stainfo`. An association identifier above 31 ends it early, with the entry in no list. -/
def rtwFreeStainfo (pstapriv : StaPriv) (psta : StaId) : StaPriv :=
  if 31 < (pstapriv.staInfo psta).aid then unlinkStainfo pstapriv psta
  else
    let pstapriv := releaseAid (unlinkStainfo pstapriv psta) psta (pstapriv.staInfo psta).aid
    pstapriv.setFreeStaQueue (pstapriv.freeStaQueue ++ [psta])

/-- `rtw_init_bcmc_stainfo`. -/
def rtwInitBcmcStainfo (pstapriv : StaPriv) : StaPriv :=
  match rtwAllocStainfo pstapriv bcAddr with
  | (pstapriv, none) => pstapriv
  | (pstapriv, some psta) => pstapriv.setInfo psta { pstapriv.staInfo psta with macId := 1 }

/-- `rtw_free_all_stainfo`. -/
def rtwFreeAllStainfo (pstapriv : StaPriv) : StaPriv :=
  let pbcmcStainfo := rtwGetBcmcStainfo pstapriv
  if pstapriv.asocStaCount = 1 then pstapriv
  else (List.finRange 32).foldl (fun pstapriv index =>
    (pstapriv.staHash index).foldl (fun pstapriv psta =>
      if pbcmcStainfo = some psta then pstapriv else rtwFreeStainfo pstapriv psta) pstapriv) pstapriv

/-! ## The access list -/

/-- `rtw_access_ctrl`. -/
def rtwAccessCtrl (pstapriv : StaPriv) (macAddr : MacAddr) : Bool :=
  let isMatch := pstapriv.aclNodeQ.any fun paclnode => paclnode.addr == macAddr && paclnode.valid
  match pstapriv.aclMode with
  | 1 => !isMatch
  | 2 => isMatch
  | _ => true

end Rtl8723au
