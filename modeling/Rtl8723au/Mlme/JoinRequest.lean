import Rtl8723au.Ap.StaMgt
import Rtl8723au.Library.GuardedRuns
import Rtl8723au.Mlme.Scanned

/-! The requests of a station to join a network: `core/rtw_ioctl_set.c` and the handlers of `core/rtw_mlme.c` for the
end of a survey, a join result, a deleted station and the two timers, over the table of scanned networks and the table
of stations. The other branch of each test is here too: a join result can end the station mode. -/
namespace Rtl8723au
set_option autoImplicit false

def WIFI_SITE_MONITOR : ℕ := 0x00000800

def WLAN_REASON_EXPIRATION_CHK : ℕ := 65535

/-- `NDIS_802_11_SSID`. -/
structure Ndis80211Ssid where
  ssidLength : Fin 33 := 0
  ssid : Vector UInt8 32 := Vector.replicate 32 0

def Ndis80211Ssid.same (a b : Ndis80211Ssid) : Bool :=
  a.ssidLength == b.ssidLength && a.ssid.toList.take a.ssidLength == b.ssid.toList.take a.ssidLength

def WlanBssidEx.ssidOf (b : WlanBssidEx) : Ndis80211Ssid := ⟨b.ssidLength, b.ssid⟩

/-! ## What a handler meets -/

/-- The answers to a command: of the allocator and of `rtw_enqueue_cmd`. -/
structure CmdEnv where
  alloc : Bool := true
  enqueued : Bool := true

def CmdEnv.accepted (env : CmdEnv) : Bool := env.alloc && env.enqueued

structure SurveyEnv where
  cmd : CmdEnv := {}
  hz : ℕ := 100
  now : NetId → BitVec 32 := fun _ => 0

/-- `rtw_is_desired_network` and whether the network was seen in the last two seconds, and the join command. -/
structure SelectEnv where
  desired : NetId → Bool := fun _ => true
  recent : NetId → Bool := fun _ => true
  cmd : CmdEnv := {}

structure DoJoinEnv where
  busyTraffic : Bool := false
  select : SelectEnv := {}
  survey : SurveyEnv := {}
  createbss : Bool := true

structure TkipCountermeasure where
  active : Bool := false
  time : BitVec 32 := 0
  curTime : BitVec 32 := 0
  hz : ℕ := 100

def TkipCountermeasure.blocks (t : TkipCountermeasure) : Bool :=
  t.active && !decide (60 * t.hz < (t.curTime - t.time).toNat)

/-! ## The state -/

/-- The members of `mlme_priv` that joining is about, with the two tables. -/
structure MlmeJoin where
  scanned : Scanned
  stapriv : StaPriv := {}
  toJoin : Bool := false
  toRoaming : ℕ := 0
  maxRoamingTimes : ℕ := 0
  assocByBssid : Bool := false
  assocBssid : MacAddr := Vector.replicate 6 0
  assocSsid : Ndis80211Ssid := {}
  assocTimer : Bool := false
  scanToTimer : Bool := false
  /-- How often `lock` was taken, less how often it was released. -/
  lock : ℤ := 0
  -- history: the join commands in the queue so far, and whether the last request was to disassociate
  joinCmds : ℕ := 0
  disassociated : Bool := false

namespace MlmeJoin

def checkFwstate (s : MlmeJoin) (state : ℕ) : Bool := s.scanned.checkFwstate state

def onScanned (s : MlmeJoin) (f : Scanned → Scanned) : MlmeJoin := { s with scanned := f s.scanned }

def onStapriv (s : MlmeJoin) (f : StaPriv → StaPriv) : MlmeJoin := { s with stapriv := f s.stapriv }

def setFwstate (s : MlmeJoin) (state : ℕ) : MlmeJoin := s.onScanned (·.setFwstate state)

def clrFwstate (s : MlmeJoin) (state : ℕ) : MlmeJoin := s.onScanned (·.clrFwstate state)

def setToJoin (s : MlmeJoin) (toJoin : Bool) : MlmeJoin := { s with toJoin := toJoin }

def setToRoaming (s : MlmeJoin) (toRoaming : ℕ) : MlmeJoin := { s with toRoaming := toRoaming }

def setAssocTimer (s : MlmeJoin) (armed : Bool) : MlmeJoin := { s with assocTimer := armed }

def curMac (s : MlmeJoin) : MacAddr := s.scanned.curNetwork.macAddress

def spinLockBh (s : MlmeJoin) : MlmeJoin := { s with lock := s.lock + 1 }

def spinUnlockBh (s : MlmeJoin) : MlmeJoin := { s with lock := s.lock - 1 }

def locked (f : MlmeJoin → MlmeJoin) (s : MlmeJoin) : MlmeJoin := (f s.spinLockBh).spinUnlockBh

/-- `rtw_set_roaming`. -/
def rtwSetRoaming (s : MlmeJoin) (toRoaming : ℕ) : MlmeJoin :=
  { s with toJoin := if toRoaming = 0 then false else s.toJoin, toRoaming := toRoaming }

/-! ## Leaving and entering a network -/

def freeFound (sp : StaPriv) (psta : Option StaId) : StaPriv :=
  match psta with
  | none => sp
  | some psta => rtwFreeStainfo sp psta

/-- The part of `rtw_free_assoc_resources` for an ad hoc cell and an access point. -/
def restartBcmc (sp : StaPriv) : StaPriv :=
  let sp := rtwFreeAllStainfo sp
  rtwInitBcmcStainfo (freeFound sp (rtwGetBcmcStainfo sp))

/-- `rtw_free_assoc_resources`. -/
def rtwFreeAssocResources (s : MlmeJoin) : MlmeJoin :=
  let s := if s.checkFwstate (WIFI_STATION_STATE ||| WIFI_AP_STATE)
    then s.onStapriv fun sp => freeFound sp (rtwGetStainfo sp (some s.curMac)) else s
  let s := if s.checkFwstate (WIFI_ADHOC_STATE ||| WIFI_ADHOC_MASTER_STATE ||| WIFI_AP_STATE)
    then s.onStapriv restartBcmc else s
  s.onScanned (·.rtwFreeAssocResources s.stapriv.asocStaCount.toNat)

/-- `rtw_indicate_disconnect`. -/
def rtwIndicateDisconnect (s : MlmeJoin) : MlmeJoin := s.onScanned (·.rtwIndicateDisconnect)

/-- `rtw_indicate_connect`. -/
def rtwIndicateConnect (s : MlmeJoin) : MlmeJoin :=
  ((s.setToJoin false).onScanned (·.rtwIndicateConnect)).rtwSetRoaming 0

/-! ## The commands -/

/-- `rtw_sitesurvey_cmd`. -/
def rtwSitesurveyCmd (s : MlmeJoin) (env : SurveyEnv) : MlmeJoin × Bool :=
  if !env.cmd.alloc then (s, false)
  else
    let s := (s.onScanned (·.rtwFreeNetworkQueue env.hz false env.now)).setFwstate WIFI_SITE_MONITOR
    if env.cmd.enqueued then ({ s with scanToTimer := true }, true) else (s.clrFwstate WIFI_SITE_MONITOR, false)

/-- `rtw_joinbss_cmd`. -/
def rtwJoinbssCmd (s : MlmeJoin) (pnetwork : NetId) (env : CmdEnv) : MlmeJoin × Bool :=
  if !env.alloc then (s, false)
  else
    let network := (s.scanned.entry pnetwork).network
    let s :=
      if s.checkFwstate (WIFI_STATION_STATE ||| WIFI_ADHOC_STATE) then s
      else if network.infrastructureMode = Ndis802_11IBSS then s.setFwstate WIFI_ADHOC_STATE
      else if network.infrastructureMode = Ndis802_11Infrastructure then s.setFwstate WIFI_STATION_STATE
      else s
    let s := if s.assocByBssid then s else { s with assocBssid := network.macAddress }
    if env.enqueued then ({ s with joinCmds := s.joinCmds + 1 }, true) else (s, false)

/-! ## Choosing a network -/

/-- The tests of `rtw_check_join_candidate`. -/
def isCandidate (s : MlmeJoin) (env : SelectEnv) (competitor : NetId) : Bool :=
  let network := (s.scanned.entry competitor).network
  (!s.assocByBssid || network.macAddress == s.assocBssid) &&
    (s.assocSsid.ssidLength == 0 || network.ssidOf.same s.assocSsid) &&
    env.desired competitor &&
    (s.toRoaming == 0 || env.recent competitor && network.ssidOf.same s.scanned.curNetwork.ssidOf)

/-- `rtw_check_join_candidate`. -/
def rtwCheckJoinCandidate (s : MlmeJoin) (env : SelectEnv) (candidate : Option NetId) (competitor : NetId) :
    Option NetId :=
  if !s.isCandidate env competitor then candidate
  else match candidate with
    | none => some competitor
    | some c =>
      if (s.scanned.entry c).network.rssi < (s.scanned.entry competitor).network.rssi then some competitor else some c

/-- The loop of `rtw_select_and_join_from_scanned_queue`. -/
def candidate (s : MlmeJoin) (env : SelectEnv) : Option NetId :=
  (s.scanned.queue .scannedQueue).foldl (s.rtwCheckJoinCandidate env) none

/-- `rtw_select_and_join_from_scanned_queue`; it answers what `rtw_enqueue_cmd` does, so 2 is never answered. -/
def rtwSelectAndJoinFromScannedQueue (s : MlmeJoin) (env : SelectEnv) : MlmeJoin × Bool :=
  match s.candidate env with
  | none => (s, false)
  | some candidate =>
    let s := if s.checkFwstate WIFI_ASOC_STATE then s.rtwIndicateDisconnect.rtwFreeAssocResources else s
    (s.setFwstate WIFI_UNDER_LINKING).rtwJoinbssCmd candidate env.cmd

def surveyFirst (s : MlmeJoin) (env : DoJoinEnv) : MlmeJoin × Bool :=
  if !env.busyTraffic || decide (0 < s.toRoaming) then
    let (s, ret) := s.rtwSitesurveyCmd env.survey
    (if ret then s else s.setToJoin false, ret)
  else (s.setToJoin false, false)

def becomeAdhocMaster (s : MlmeJoin) : MlmeJoin :=
  s.onScanned fun t => { t with fwState := BitVec.ofNat 32 WIFI_ADHOC_MASTER_STATE }

/-- `rtw_do_join`. -/
def rtwDoJoin (s : MlmeJoin) (env : DoJoinEnv) : MlmeJoin × Bool :=
  let s := (s.setFwstate WIFI_UNDER_LINKING).setToJoin true
  if s.scanned.queue .scannedQueue = [] then (s.clrFwstate WIFI_UNDER_LINKING).surveyFirst env
  else
    match s.rtwSelectAndJoinFromScannedQueue env.select with
    | (s, true) => ((s.setToJoin false).setAssocTimer true, true)
    | (s, false) =>
      if s.checkFwstate WIFI_ADHOC_STATE then
        let s := s.becomeAdhocMaster
        if env.createbss then (s.setToJoin false, true) else (s, false)
      else (s.clrFwstate WIFI_UNDER_LINKING).surveyFirst env

/-! ## The requests -/

/-- The station leaves its network for the one that is asked for. -/
def leaveForRequest (s : MlmeJoin) : MlmeJoin :=
  let s := if s.checkFwstate WIFI_ASOC_STATE then s.rtwIndicateDisconnect else s
  let s := s.rtwFreeAssocResources
  if s.checkFwstate WIFI_ADHOC_MASTER_STATE then (s.clrFwstate WIFI_ADHOC_MASTER_STATE).setFwstate WIFI_ADHOC_STATE
  else s

/-- The label `handle_tkip_countermeasure` and what follows; `record` notes what is asked for. -/
def handleTkipCountermeasure (s : MlmeJoin) (tkip : TkipCountermeasure) (record : MlmeJoin → MlmeJoin) (env : DoJoinEnv) :
    MlmeJoin :=
  if tkip.blocks then s
  else
    let s := record s
    if s.checkFwstate WIFI_SITE_MONITOR then s.setToJoin true else (s.rtwDoJoin env).1

/-- The part of a request in front of the label; nothing when it goes to `release_mlme_lock`. -/
def requestGate (s : MlmeJoin) (leave : MlmeJoin → Option MlmeJoin) : Option MlmeJoin :=
  if s.checkFwstate WIFI_SITE_MONITOR then some s
  else if s.checkFwstate WIFI_UNDER_LINKING then none
  else if s.checkFwstate (WIFI_ASOC_STATE ||| WIFI_ADHOC_MASTER_STATE) then leave s
  else some s

/-- `rtw_set_802_11_bssid`. -/
def rtwSet80211Bssid (s : MlmeJoin) (bssid : MacAddr) (tkip : TkipCountermeasure) (env : DoJoinEnv) : MlmeJoin :=
  if bssid = Vector.replicate 6 0 ∨ bssid = bcAddr then s
  else
    s.locked fun s =>
      let leave (s : MlmeJoin) : Option MlmeJoin :=
        if s.curMac = bssid then if s.checkFwstate WIFI_STATION_STATE then some s else none
        else some s.leaveForRequest
      match s.requestGate leave with
      | none => s
      | some s => s.handleTkipCountermeasure tkip (fun s => { s with assocBssid := bssid, assocByBssid := true }) env

/-- `rtw_set_802_11_ssid`; `sameIbss` is the answer of `rtw_is_same_ibss`. -/
def rtwSet80211Ssid (s : MlmeJoin) (ssid : Ndis80211Ssid) (hwInitCompleted sameIbss : Bool) (tkip : TkipCountermeasure)
    (env : DoJoinEnv) : MlmeJoin :=
  if !hwInitCompleted then s
  else
    s.locked fun s =>
      let leave (s : MlmeJoin) : Option MlmeJoin :=
        if s.assocSsid.same ssid then
          if s.checkFwstate WIFI_STATION_STATE then some s
          else if sameIbss then none else some s.leaveForRequest
        else some s.leaveForRequest
      match s.requestGate leave with
      | none => s
      | some s => s.handleTkipCountermeasure tkip (fun s => { s with assocSsid := ssid, assocByBssid := false }) env

/-- `rtw_set_802_11_disassociate`. -/
def rtwSet80211Disassociate (s : MlmeJoin) : MlmeJoin :=
  s.locked fun s =>
    if s.checkFwstate WIFI_ASOC_STATE then s.rtwIndicateDisconnect.rtwFreeAssocResources else s

/-- `rtw_set_802_11_bssid_list_scan`; `rtw_wx_set_scan` makes the same test for a single name. -/
def rtwSet80211BssidListScan (s : MlmeJoin) (hwInitCompleted busyTraffic scanDeny : Bool) (env : SurveyEnv) : MlmeJoin :=
  if !hwInitCompleted then s
  else if s.checkFwstate (WIFI_SITE_MONITOR ||| WIFI_UNDER_LINKING) || busyTraffic then s
  else if scanDeny then s
  else s.locked fun s => (s.rtwSitesurveyCmd env).1

/-- `find_phase_handler`, which scans without that test. -/
def findPhaseHandler (s : MlmeJoin) (env : SurveyEnv) : MlmeJoin := s.locked fun s => (s.rtwSitesurveyCmd env).1

/-! ## Surveys -/

/-- `update_current_network`. -/
def updateCurrentNetwork (t : Scanned) (pnetwork : WlanBssidEx) : Scanned :=
  if t.checkFwstate WIFI_ASOC_STATE && t.curNetwork.isSameNetwork pnetwork then
    { t with curNetwork := t.updateNetwork t.curNetwork pnetwork true }
  else t

/-- `rtw_survey_event_callback`. -/
def rtwSurveyEventCallback (s : MlmeJoin) (pnetwork : WlanBssidEx) (now : BitVec 32) : MlmeJoin :=
  s.locked fun s =>
    let own := s.checkFwstate WIFI_ADHOC_MASTER_STATE && s.curMac == pnetwork.macAddress
    if own && (s.scanned.rtwFindNetwork pnetwork.macAddress).isSome then s.onScanned (·.surveyTimestamp pnetwork)
    else if s.checkFwstate WIFI_UNDER_LINKING then s
    else
      let pnetwork := if pnetwork.ssid[0] = 0 then { pnetwork with ssidLength := 0 } else pnetwork
      s.onScanned fun t => (updateCurrentNetwork t pnetwork).rtwUpdateScannedNetwork pnetwork now

/-- Nothing was found to join: another survey while roaming, or the end of it. -/
def surveyAgain (s : MlmeJoin) (env : SurveyEnv) : MlmeJoin :=
  if s.toRoaming = 0 then s
  else
    let s := s.setToRoaming (s.toRoaming - 1)
    let giveUp (s : MlmeJoin) : MlmeJoin := (s.rtwSetRoaming 0).rtwFreeAssocResources.rtwIndicateDisconnect
    if s.toRoaming = 0 then giveUp s
    else match s.rtwSitesurveyCmd env with
      | (s, true) => s.setToJoin true
      | (s, false) => giveUp s

/-- What `rtw_surveydone_event_callback` does for a pending request. -/
def joinAfterSurvey (s : MlmeJoin) (select : SelectEnv) (survey : SurveyEnv) : MlmeJoin :=
  if s.checkFwstate WIFI_ADHOC_STATE then
    if s.checkFwstate WIFI_ASOC_STATE then s
    else match (s.setFwstate WIFI_UNDER_LINKING).rtwSelectAndJoinFromScannedQueue select with
      | (s, true) => s.setAssocTimer true
      | (s, false) => s.becomeAdhocMaster.setToJoin false
  else
    match ((s.setFwstate WIFI_UNDER_LINKING).setToJoin false).rtwSelectAndJoinFromScannedQueue select with
    | (s, true) => s.setAssocTimer true
    | (s, false) => (s.surveyAgain survey).clrFwstate WIFI_UNDER_LINKING

/-- The survey that is outstanding is over; one that was given up already is not noted again. -/
def surveyOver (s : MlmeJoin) : MlmeJoin :=
  if s.checkFwstate WIFI_SITE_MONITOR then { s with scanToTimer := false }.clrFwstate WIFI_SITE_MONITOR else s

/-- `rtw_surveydone_event_callback`. -/
def rtwSurveydoneEventCallback (s : MlmeJoin) (select : SelectEnv) (survey : SurveyEnv) : MlmeJoin :=
  s.locked fun s =>
    let s := s.surveyOver
    if s.toJoin then s.joinAfterSurvey select survey else s

/-- `rtw_scan_timeout_handler`. -/
def rtwScanTimeoutHandler (s : MlmeJoin) : MlmeJoin :=
  { s with scanToTimer := false }.locked fun s => s.clrFwstate WIFI_SITE_MONITOR

/-! ## A join result -/

/-- The record of a join result; its `IELength` may be anything. -/
structure JoinResult where
  joinRes : ℤ
  network : WlanBssidEx
  ieLength : BitVec 32

/-- `sizeof(WLAN_BSSID_EX) - MAX_IE_SZ`, with a `long` of 8 bytes. -/
def bssidExHeader : ℕ := 124

def MAX_IE_SZ : ℕ := 768

/-- `get_WLAN_BSSID_EX_sz`. -/
def JoinResult.bssidExSz (r : JoinResult) : BitVec 32 := BitVec.ofNat 32 bssidExHeader + r.ieLength

def JoinResult.tooLong (r : JoinResult) : Bool := decide (bssidExHeader + MAX_IE_SZ < r.bssidExSz.toNat)

/-- The low `n` bytes of one word and the others of another. -/
def lowBytes {w : ℕ} (n : ℕ) (src dst : BitVec w) : BitVec w :=
  let mask := BitVec.ofNat w (2 ^ (8 * n) - 1)
  src &&& mask ||| dst &&& ~~~mask

/-- The address in `cur_network` after `memcpy` of `n` bytes of the record. -/
def copiedMac (dst src : MacAddr) (n : ℕ) : MacAddr := Vector.ofFn fun i => if 4 + i.val < n then src[i] else dst[i]

/-- `memcpy` of the first `n` bytes of the record, without its elements. -/
def copyHeader (dst src : WlanBssidEx) (n : ℕ) : WlanBssidEx :=
  if bssidExHeader ≤ n then src
  else
    { dst with
      macAddress := copiedMac dst.macAddress src.macAddress n
      reserved0 := if 10 < n then src.reserved0 else dst.reserved0
      ssidLength := if 12 < n then src.ssidLength else dst.ssidLength
      ssid := Vector.ofFn fun i => if 16 + i.val < n then src.ssid[i] else dst.ssid[i]
      rssi := if n ≤ 52 then dst.rssi
        else (lowBytes (n - 52) (BitVec.ofInt 64 src.rssi) (BitVec.ofInt 64 dst.rssi)).toInt
      infrastructureMode := if n ≤ 96 then dst.infrastructureMode
        else (lowBytes (n - 96) (BitVec.ofNat 32 src.infrastructureMode) (BitVec.ofNat 32 dst.infrastructureMode)).toNat
      signalStrength := if 116 < n then src.signalStrength else dst.signalStrength
      signalQuality := if 117 < n then src.signalQuality else dst.signalQuality }

/-- `rtw_joinbss_update_network`, for a record of any length that is let through. -/
def rtwJoinbssUpdateNetwork (t : Scanned) (ptargetWlan : NetId) (r : JoinResult) : Scanned :=
  let target := (t.entry ptargetWlan).network
  let copied := copyHeader t.curNetwork r.network r.bssidExSz.toNat
  { t.rtwJoinbssUpdateNetwork ptargetWlan r.network with
    curNetwork := { copied with ieLength := target.ieLength, ies := target.ies } }

/-- `rtw_joinbss_update_stainfo`, with the members of the entry that freeing it reads. -/
def rtwJoinbssUpdateStainfo (sp : StaPriv) (r : JoinResult) : StaPriv × Bool :=
  let found := match rtwGetStainfo sp (some r.network.macAddress) with
    | some psta => (sp, some psta)
    | none => rtwAllocStainfo sp r.network.macAddress
  match found with
  | (sp, none) => (sp, false)
  | (sp, some psta) => (sp.setInfo psta { sp.staInfo psta with aid := r.joinRes.toNat, macId := 0 }, true)

/-- The station of the network that is left for another one. -/
def freePcurSta (s : MlmeJoin) (r : JoinResult) : MlmeJoin :=
  if s.checkFwstate WIFI_ASOC_STATE && r.network.macAddress != s.curMac then
    s.onStapriv fun sp => freeFound sp (rtwGetStainfo sp (some s.curMac))
  else s

/-- The steps of `rtw_joinbss_event_prehandle` for a result above zero. -/
def joinSucceeded (s : MlmeJoin) (r : JoinResult) : MlmeJoin :=
  if s.checkFwstate WIFI_UNDER_LINKING then
    let s := s.freePcurSta r
    match s.scanned.joinTarget r.network with
    | (none, t) => { s with scanned := t }
    | (some ptargetWlan, t) =>
      let s := { s with scanned := rtwJoinbssUpdateNetwork t ptargetWlan r }
      if s.checkFwstate WIFI_STATION_STATE then
        match rtwJoinbssUpdateStainfo s.stapriv r with
        | (sp, false) => { s with stapriv := sp }
        | (sp, true) => ({ s with stapriv := sp }.rtwIndicateConnect).setAssocTimer false
      else s.setAssocTimer false
  else s

/-- `rtw_joinbss_event_prehandle`; a record that is too long goes to the label behind `spin_lock_bh`. -/
def rtwJoinbssEventPrehandle (s : MlmeJoin) (r : JoinResult) : MlmeJoin :=
  if r.tooLong then s.spinUnlockBh
  else
    s.locked fun s =>
      if 0 < r.joinRes then s.joinSucceeded r else (s.setAssocTimer true).clrFwstate WIFI_UNDER_LINKING

/-! ## Roaming -/

/-- The attempts that are left; `env n` is what the attempt meets that leaves `n` further ones. -/
def roamingLoop (env : ℕ → DoJoinEnv) : ℕ → MlmeJoin → MlmeJoin
  | 0, s => s.rtwIndicateDisconnect
  | n + 1, s =>
    match s.rtwDoJoin (env n) with
    | (s, true) => s
    | (s, false) => roamingLoop env n (s.setToRoaming n)

/-- The network that is looked for is the current one, by its name. -/
def roamFrom (s : MlmeJoin) : MlmeJoin :=
  { s with assocSsid := s.scanned.curNetwork.ssidOf, assocByBssid := false }

/-- `_rtw_roaming`, from the current network. -/
def rtwRoamingCore (s : MlmeJoin) (env : ℕ → DoJoinEnv) : MlmeJoin :=
  if 0 < s.toRoaming then roamingLoop env s.toRoaming s.roamFrom else s

/-- `rtw_roaming`. -/
def rtwRoaming (s : MlmeJoin) (env : ℕ → DoJoinEnv) : MlmeJoin := s.locked (·.rtwRoamingCore env)

/-- `_rtw_join_timeout_handler`, which counts an attempt before it makes it. -/
def rtwJoinTimeoutHandler (s : MlmeJoin) (env : ℕ → DoJoinEnv) : MlmeJoin :=
  (s.setAssocTimer false).locked fun s =>
    if 0 < s.toRoaming then roamingLoop env (s.toRoaming - 1) (s.setToRoaming (s.toRoaming - 1))
    else s.rtwIndicateDisconnect.onScanned (·.freeScanqueue)

/-- The attempts that a deleted station leaves. -/
def staDelRoaming (s : MlmeJoin) (reason : ℕ) : MlmeJoin :=
  let s := if 0 < s.toRoaming then s.setToRoaming (s.toRoaming - 1) else s.rtwSetRoaming s.maxRoamingTimes
  if reason ≠ WLAN_REASON_EXPIRATION_CHK then s.rtwSetRoaming 0 else s

/-- The part of `rtw_stadel_event_callback` for an ad hoc cell. -/
def staDelAdhoc (s : MlmeJoin) (psta : Option StaId) : MlmeJoin :=
  let s := s.onStapriv (freeFound · psta)
  if s.stapriv.asocStaCount = 1 then
    let s := s.onScanned (·.removeCurrent)
    if s.checkFwstate WIFI_ADHOC_STATE then (s.setFwstate WIFI_ADHOC_MASTER_STATE).clrFwstate WIFI_ADHOC_STATE else s
  else s

/-- `rtw_stadel_event_callback`. -/
def rtwStadelEventCallback (s : MlmeJoin) (macaddr : MacAddr) (reason : ℕ) (env : ℕ → DoJoinEnv) : MlmeJoin :=
  let psta := rtwGetStainfo s.stapriv (some macaddr)
  if s.checkFwstate WIFI_AP_STATE then s
  else
    s.locked fun s =>
      let s :=
        if s.checkFwstate WIFI_STATION_STATE then
          let s := (s.staDelRoaming reason).rtwFreeAssocResources.rtwIndicateDisconnect
          (s.onScanned (·.removeCurrent)).rtwRoamingCore env
        else s
      if s.checkFwstate (WIFI_ADHOC_MASTER_STATE ||| WIFI_ADHOC_STATE) then s.staDelAdhoc psta else s

end MlmeJoin

/-! ## The machine -/

inductive JoinEvent
  | setBssid (bssid : MacAddr) (tkip : TkipCountermeasure) (env : DoJoinEnv)
  | setSsid (ssid : Ndis80211Ssid) (hwInitCompleted sameIbss : Bool) (tkip : TkipCountermeasure) (env : DoJoinEnv)
  | disassociate
  | scan (hwInitCompleted busyTraffic scanDeny : Bool) (env : SurveyEnv)
  | findPhase (env : SurveyEnv)
  | survey (pnetwork : WlanBssidEx) (now : BitVec 32)
  | surveyDone (select : SelectEnv) (survey : SurveyEnv)
  | scanTimeout
  | joinResult (r : MlmeJoin.JoinResult)
  | staDel (macaddr : MacAddr) (reason : ℕ) (env : ℕ → DoJoinEnv)
  | joinTimeout (env : ℕ → DoJoinEnv)
  | setRoaming (toRoaming : ℕ)
  | roaming (env : ℕ → DoJoinEnv)

namespace MlmeJoin

def handle (s : MlmeJoin) : JoinEvent → MlmeJoin
  | .setBssid bssid tkip env => { s with disassociated := false }.rtwSet80211Bssid bssid tkip env
  | .setSsid ssid hwInitCompleted sameIbss tkip env =>
    { s with disassociated := false }.rtwSet80211Ssid ssid hwInitCompleted sameIbss tkip env
  | .disassociate => { s.rtwSet80211Disassociate with disassociated := true }
  | .scan hwInitCompleted busyTraffic scanDeny env =>
    s.rtwSet80211BssidListScan hwInitCompleted busyTraffic scanDeny env
  | .findPhase env => s.findPhaseHandler env
  | .survey pnetwork now => s.rtwSurveyEventCallback pnetwork now
  | .surveyDone select survey => s.rtwSurveydoneEventCallback select survey
  | .scanTimeout => s.rtwScanTimeoutHandler
  | .joinResult r => s.rtwJoinbssEventPrehandle r
  | .staDel macaddr reason env => s.rtwStadelEventCallback macaddr reason env
  | .joinTimeout env => s.rtwJoinTimeoutHandler env
  | .setRoaming toRoaming => s.rtwSetRoaming toRoaming
  | .roaming env => s.rtwRoaming env

def step (s : MlmeJoin) (event : JoinEvent) : Option MlmeJoin := some (s.handle event)

/-- A station that has not asked for anything yet. -/
def start (config : MlmeJoin) : MlmeJoin where
  scanned := { Scanned.rtwInitMlmePriv with
    fwState := BitVec.ofNat 32 WIFI_STATION_STATE, curNetwork := config.scanned.curNetwork }
  stapriv := rtwInitBcmcStainfo rtwInitStaPriv
  maxRoamingTimes := config.maxRoamingTimes

/-! ## What should hold -/

/-- The bookkeeping holds: the lock is free, a join under way has its timer, a pending request its survey, and a linked
station its entry. -/
structure Booked (s : MlmeJoin) : Prop where
  released : s.lock = 0
  armed : s.checkFwstate WIFI_UNDER_LINKING = true → s.assocTimer = true
  pending : s.toJoin = true → s.checkFwstate WIFI_SITE_MONITOR = true
  entry : s.checkFwstate WIFI_ASOC_STATE = true → (rtwGetStainfo s.stapriv (some s.curMac)).isSome = true

def isRequest : JoinEvent → Bool
  | .setBssid .. | .setSsid .. => true
  | _ => false

/-- After a disassociate request, nothing but the next request issues a join command. -/
def StaysDisassociated (s : MlmeJoin) (event : JoinEvent) : Prop :=
  s.disassociated = true → isRequest event = false → (s.handle event).joinCmds = s.joinCmds

/-! ## When it does -/

/-- The station mode, in which the driver is a client. -/
def StationMode (s : MlmeJoin) : Prop :=
  s.scanned.fwState &&& 0x78 = BitVec.ofNat 32 WIFI_STATION_STATE

/-- No join command can come of a search of the table: none of its networks is wanted, or the command is refused. -/
def NoJoin (s : MlmeJoin) (env : SelectEnv) : Prop :=
  env.cmd.accepted = false ∨ ∀ n ∈ s.scanned.queue .scannedQueue, s.isCandidate env n = false

/-- The address under which `rtw_get_stainfo` looks an address up. -/
def lookedUp (mac : MacAddr) : MacAddr := if isMulticastEtherAddr mac then bcAddr else mac

/-- The address in `cur_network` when the record has been copied. -/
def joinedMac (s : MlmeJoin) (r : JoinResult) : MacAddr :=
  (copyHeader s.scanned.curNetwork r.network r.bssidExSz.toNat).macAddress

/-- The record is not too long, and when it ends the join under way, then either in station mode with an entry for the
address that is copied, or with no request pending. -/
def SafeResult (s : MlmeJoin) (r : JoinResult) : Prop :=
  r.tooLong = false ∧
    (0 < r.joinRes → s.checkFwstate WIFI_UNDER_LINKING = true →
      (s.scanned.rtwFindNetwork r.network.macAddress).isSome = true →
      if r.network.infrastructureMode = Ndis802_11Infrastructure ∧
          ((rtwGetStainfo s.stapriv (some r.network.macAddress)).isSome = true ∨ s.stapriv.freeStaQueue ≠ []) then
        (rtwGetStainfo s.stapriv (some (s.joinedMac r))).isSome = true ∨
          lookedUp (s.joinedMac r) = r.network.macAddress
      else s.toJoin = false)

/-- No attempt of a roaming station that has been told to disassociate can issue a join command. -/
def QuietRoaming (s : MlmeJoin) (env : ℕ → DoJoinEnv) : Prop :=
  s.disassociated = true → ∀ n < s.toRoaming, s.roamFrom.NoJoin (env n).select

def Safe (s : MlmeJoin) : JoinEvent → Prop
  | .findPhase env => s.toJoin = true → env.cmd.alloc = true → env.cmd.enqueued = true
  | .surveyDone select _ => s.disassociated = true → s.toJoin = true → s.NoJoin select
  | .scanTimeout => s.toJoin = false
  | .joinResult r => s.SafeResult r
  | .staDel _ reason env => (s.staDelRoaming reason).QuietRoaming env
  | .joinTimeout env => s.disassociated = true → ∀ n < s.toRoaming - 1, s.NoJoin (env n).select
  | .roaming env => s.QuietRoaming env
  | _ => True

end MlmeJoin

end Rtl8723au
