import Rtl8723au.Mlme.Scanned
import Rtl8723au.Ap.Beacon
import Rtl8723au.Ap.StaMgt
import Rtl8723au.Include.Wifi

/-! The client side of a join, of `core/rtw_mlme_ext.c`: `join_cmd_hdl`, the handlers of the frames an access
point answers with, and the link timer. What the elements of a frame change elsewhere is left out. -/
namespace Rtl8723au
open Mem Security Wifi
set_option autoImplicit false

/-! ## Frames -/

/-- A management frame: the bytes from `rx_data` on and its length. -/
structure MgmtFrame where
  mem : Mem
  len : ℕ

namespace MgmtFrame

def addr1 (f : MgmtFrame) : List UInt8 := bytesAt f.mem 4 6
def addr2 (f : MgmtFrame) : List UInt8 := bytesAt f.mem 10 6
def addr3 (f : MgmtFrame) : List UInt8 := bytesAt f.mem 16 6

/-- `get_da`. -/
def getDa (f : MgmtFrame) : List UInt8 :=
  match getTofrDs (le16 f.mem 0) with
  | 0x00 => f.addr1
  | 0x01 => f.addr1
  | _ => f.addr3

end MgmtFrame

def _AUTH_IE_OFFSET_ : ℕ := 6
def _CHLGETXT_IE_ : UInt8 := 16

/-! ## The state of the join -/

def WIFI_FW_NULL_STATE : BitVec 32 := 0x00
def WIFI_FW_STATION_STATE : BitVec 32 := 0x02
def WIFI_FW_LINKING_STATE : BitVec 32 :=
  WIFI_FW_AUTH_NULL ||| WIFI_FW_AUTH_STATE ||| WIFI_FW_AUTH_SUCCESS ||| WIFI_FW_ASSOC_STATE

def dot11AuthAlgrthm_Open : ℕ := 0
def dot11AuthAlgrthm_Shared : ℕ := 1

def REAUTH_TO : ℕ := 300
def REASSOC_TO : ℕ := 300
def REAUTH_LIMIT : ℕ := 4
def REASSOC_LIMIT : ℕ := 4
def WAIT_FOR_BCN_TO_MIN : ℕ := 6000
def WAIT_FOR_BCN_TO_MAX : ℕ := 20000

/-- The frames a station sends. -/
inductive StaFrame
  | deauth (reason : ℕ)
  | auth (algthm seq : ℕ) (chgTxt : Option (List UInt8))
  | assocreq
  deriving DecidableEq

/-- The members of `mlme_ext_info` that a join uses, its link timer, and the history: what was sent, the results
of `report_join_res` with the state at the call, and the reasons of `report_del_sta_event`. `info` are the bytes
from `chg_txt` on; the timer holds the time at which it expires. -/
structure Join where
  myid : List UInt8
  state : BitVec 32 := 0
  reauthCount : ℕ := 0
  reassocCount : ℕ := 0
  linkCount : ℕ := 0
  authSeq : ℕ := 0
  authAlgo : ℕ := 0
  iv : BitVec 32 := 0
  info : Mem := fun _ => 0
  retry : ℕ := 0
  network : WlanBssidEx := {}
  linkTimer : Option ℕ := none
  sent : List StaFrame := []
  reports : List (ℤ × BitVec 32) := []
  deleted : List ℕ := []

namespace Join

/-! ## The members behind `chg_txt` -/

def CHG_TXT : ℤ := 0
def AID : ℤ := 128
def BCN_INTERVAL : ℤ := 130
def CAPABILITY : ℤ := 132
def SLOT_TIME : ℤ := 135

def chgTxt (s : Join) : List UInt8 := bytesAt s.info CHG_TXT 128

def aid (s : Join) : ℕ := le16 s.info AID

def setAid (s : Join) (aid : ℕ) : Join := { s with info := putLe16 s.info AID aid }
def setBcnInterval (s : Join) (interval : ℕ) : Join := { s with info := putLe16 s.info BCN_INTERVAL interval }
def setCapability (s : Join) (capability : ℕ) : Join := { s with info := putLe16 s.info CAPABILITY capability }
def setSlotTime (s : Join) (slotTime : UInt8) : Join :=
  { s with info := Function.update s.info SLOT_TIME slotTime }

/-! ## The pieces of the handlers -/

def has (s : Join) (bits : BitVec 32) : Bool := s.state &&& bits != 0

def bssid (s : Join) : List UInt8 := s.network.macAddress.toList

def setLinkTimer (s : Join) (now ms : ℕ) : Join := { s with linkTimer := some (now + ms) }
def cancelLinkTimer (s : Join) : Join := { s with linkTimer := none }

def reportJoinRes (s : Join) (res : ℤ) : Join := { s with reports := s.reports ++ [(res, s.state)] }

def reportDelStaEvent (s : Join) (reason : ℕ) : Join := { s with deleted := s.deleted ++ [reason] }

def WLAN_REASON_DEAUTH_LEAVING : ℕ := 3

def issueDeauth (s : Join) (reason : ℕ) : Join := { s with sent := s.sent ++ [.deauth reason] }

/-- `issue_auth` of a station. -/
def issueAuth (s : Join) : Join :=
  let useSharedKey := s.authAlgo == dot11AuthAlgrthm_Shared
  let third := s.authSeq == 3 && s.has WIFI_FW_AUTH_STATE && useSharedKey
  { s with
    iv := if third then s.iv + 1 else s.iv
    sent := s.sent ++ [.auth (if useSharedKey then 1 else 0) s.authSeq (if third then some s.chgTxt else none)] }

def issueAssocreq (s : Join) : Join := { s with sent := s.sent ++ [.assocreq] }

def decideWaitForBeaconTimeout (bcnInterval : ℕ) : ℕ :=
  if bcnInterval <<< 2 < WAIT_FOR_BCN_TO_MIN then WAIT_FOR_BCN_TO_MIN
  else if bcnInterval <<< 2 > WAIT_FOR_BCN_TO_MAX then WAIT_FOR_BCN_TO_MAX
  else bcnInterval <<< 2

def getBeaconInterval (bss : WlanBssidEx) : ℕ := (bss.ies 8).toNat + 256 * (bss.ies 9).toNat

/-- `start_clnt_join` of an infrastructure network; with other capabilities it does not come this far. -/
def startClntJoin (s : Join) (now : ℕ) : Join :=
  let bcnInterval := getBeaconInterval s.network
  let s := s.setBcnInterval bcnInterval
  if s.network.capability &&& WlanBssidEx.WLAN_CAPABILITY_ESS ≠ 0 then
    { s.setLinkTimer now (decideWaitForBeaconTimeout bcnInterval) with
      state := WIFI_FW_AUTH_NULL ||| WIFI_FW_STATION_STATE }
  else s

def startClntAuth (s : Join) (now : ℕ) : Join :=
  let s := s.cancelLinkTimer
  let s := { s with
    state := (s.state &&& ~~~WIFI_FW_AUTH_NULL) ||| WIFI_FW_AUTH_STATE
    authSeq := 1
    reauthCount := 0
    reassocCount := 0
    linkCount := 0
    retry := 0 }
  ((s.issueDeauth WLAN_REASON_DEAUTH_LEAVING).issueAuth).setLinkTimer now REAUTH_TO

def startClntAssoc (s : Join) (now : ℕ) : Join :=
  let s := s.cancelLinkTimer
  let s := { s with
    state := (s.state &&& ~~~(WIFI_FW_AUTH_NULL ||| WIFI_FW_AUTH_STATE)) |||
      (WIFI_FW_AUTH_SUCCESS ||| WIFI_FW_ASSOC_STATE) }
  s.issueAssocreq.setLinkTimer now REASSOC_TO

def receiveDisconnect (s : Join) (macAddr : List UInt8) (reason : ℕ) : Join :=
  if macAddr ≠ s.bssid then s
  else if s.state &&& 0x03 = WIFI_FW_STATION_STATE then
    if s.has WIFI_FW_ASSOC_SUCCESS then { s with state := WIFI_FW_NULL_STATE }.reportDelStaEvent reason
    else if s.has WIFI_FW_LINKING_STATE then { s with state := WIFI_FW_NULL_STATE }.reportJoinRes (-2)
    else s
  else s

/-! ## The handlers -/

/-- `join_cmd_hdl`; a station that is connected leaves its network first. -/
def joinCmdHdl (s : Join) (pbuf : WlanBssidEx) (now : ℕ) : Join :=
  let s :=
    if s.has WIFI_FW_ASSOC_SUCCESS then
      let s := if s.has WIFI_FW_STATION_STATE then s.issueDeauth WLAN_REASON_DEAUTH_LEAVING else s
      { s with state := WIFI_FW_NULL_STATE }.cancelLinkTimer
    else s
  ({ s with network := pbuf }.cancelLinkTimer).startClntJoin now

/-- `OnBeacon`; `scanning` is the state of the site survey, and `changed` tells whether the access point is in
the station table and `rtw_check_bcn_info` found it changed. -/
def onBeacon (s : Join) (f : MgmtFrame) (scanning changed : Bool) (now : ℕ) : Join :=
  if scanning then s
  else if f.addr3 = s.bssid then
    if s.has WIFI_FW_AUTH_NULL then s.startClntAuth now
    else if s.state &&& 0x03 = WIFI_FW_STATION_STATE ∧ s.has WIFI_FW_ASSOC_SUCCESS then
      if changed then s.receiveDisconnect s.bssid 65535 else s
    else s
  else s

/-- The challenge text that `OnAuthClient` looks for: where its element is and its length. -/
def challenge (f : MgmtFrame) : Option (ℤ × ℕ) :=
  ((rtwGetIe (WLAN_HDR_A3_LEN + _AUTH_IE_OFFSET_) _CHLGETXT_IE_ (f.len - WLAN_HDR_A3_LEN - _AUTH_IE_OFFSET_)).run f.mem).val

def authOffset (f : MgmtFrame) : ℕ := WLAN_HDR_A3_LEN + if getPrivacy (le16 f.mem 0) then 4 else 0
def authSeqOf (f : MgmtFrame) : ℕ := le16 f.mem (authOffset f + 2)
def authStatus (f : MgmtFrame) : ℕ := le16 f.mem (authOffset f + 4)

def onAuthClient (s : Join) (f : MgmtFrame) (now : ℕ) : Join :=
  if s.myid ≠ f.getDa then s
  else if !s.has WIFI_FW_AUTH_STATE then s
  else
    let seq := authSeqOf f
    let status := authStatus f
    if status ≠ 0 then
      let s :=
        if status = 13 then
          { s with
            authAlgo := if s.authAlgo = dot11AuthAlgrthm_Shared then dot11AuthAlgrthm_Open else dot11AuthAlgrthm_Shared }
        else s
      s.setLinkTimer now 1
    else if seq = 2 then
      if s.authAlgo = dot11AuthAlgrthm_Shared then
        match challenge f with
        | none => s
        | some (p, len) =>
          let s := { s with info := patch s.info CHG_TXT len fun i => f.mem (p + 2 + i), authSeq := 3 }
          s.issueAuth.setLinkTimer now REAUTH_TO
      else s.startClntAssoc now
    else if seq = 4 then
      if s.authAlgo = dot11AuthAlgrthm_Shared then s.startClntAssoc now else s
    else s

def assocCapability (f : MgmtFrame) : ℕ := le16 f.mem WLAN_HDR_A3_LEN
def assocStatus (f : MgmtFrame) : ℕ := le16 f.mem (WLAN_HDR_A3_LEN + 2)
def assocAid (f : MgmtFrame) : ℕ := le16 f.mem (WLAN_HDR_A3_LEN + 4) &&& 0x3fff

def onAssocRsp (s : Join) (f : MgmtFrame) : Join :=
  if s.myid ≠ f.getDa then s
  else if !s.has (WIFI_FW_AUTH_SUCCESS ||| WIFI_FW_ASSOC_STATE) then s
  else if s.has WIFI_FW_ASSOC_SUCCESS then s
  else
    let s := s.cancelLinkTimer
    if assocStatus f > 0 then { s with state := WIFI_FW_NULL_STATE }.reportJoinRes (-4)
    else
      let capability := assocCapability f
      let s := (s.setCapability capability).setSlotTime (if capability &&& 0x0400 ≠ 0 then 9 else 20)
      let s := s.setAid (assocAid f)
      let s := { s with state := (s.state &&& ~~~WIFI_FW_ASSOC_STATE) ||| WIFI_FW_ASSOC_SUCCESS }
      s.reportJoinRes (assocAid f)

/-- `OnDeAuth` and `OnDisassoc` of a station, which do the same. -/
def onDisconnectFrame (s : Join) (f : MgmtFrame) : Join :=
  if f.addr3 ≠ s.bssid then s else s.receiveDisconnect f.addr3 (le16 f.mem WLAN_HDR_A3_LEN)

def onDeAuth (s : Join) (f : MgmtFrame) : Join := s.onDisconnectFrame f
def onDisassoc (s : Join) (f : MgmtFrame) : Join := s.onDisconnectFrame f

def linkTimerHdl (s : Join) (now : ℕ) : Join :=
  if s.has WIFI_FW_AUTH_NULL then { s with state := WIFI_FW_NULL_STATE }.reportJoinRes (-3)
  else if s.has WIFI_FW_AUTH_STATE then
    let s := { s with reauthCount := s.reauthCount + 1 }
    if s.reauthCount > REAUTH_LIMIT then { s with state := 0 }.reportJoinRes (-1)
    else ({ s with authSeq := 1 }.issueAuth).setLinkTimer now REAUTH_TO
  else if s.has WIFI_FW_ASSOC_STATE then
    let s := { s with reassocCount := s.reassocCount + 1 }
    if s.reassocCount > REASSOC_LIMIT then { s with state := WIFI_FW_NULL_STATE }.reportJoinRes (-2)
    else s.issueAssocreq.setLinkTimer now REASSOC_TO
  else s

/-! ## Runs -/

inductive Event
  | beacon (f : MgmtFrame) (scanning changed : Bool) (now : ℕ)
  | auth (f : MgmtFrame) (now : ℕ)
  | assocRsp (f : MgmtFrame)
  | deauth (f : MgmtFrame)
  | disassoc (f : MgmtFrame)
  | linkTimer (now : ℕ)

/-- A timer that has expired is not armed any more when its handler starts. -/
def step (s : Join) : Event → Join
  | .beacon f scanning changed now => s.onBeacon f scanning changed now
  | .auth f now => s.onAuthClient f now
  | .assocRsp f => s.onAssocRsp f
  | .deauth f => s.onDeAuth f
  | .disassoc f => s.onDisassoc f
  | .linkTimer now =>
    match s.linkTimer with
    | none => s
    | some expires => if expires ≤ now then s.cancelLinkTimer.linkTimerHdl now else s

def run (s : Join) (events : List Event) : Join := events.foldl step s

end Join

end Rtl8723au
