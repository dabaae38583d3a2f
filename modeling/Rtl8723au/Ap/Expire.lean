import Rtl8723au.Ap.Assoc

/-! The ways a station leaves the cell: deauthentication and disassociation frames, the timer
`expire_timeout_chk` of `core/rtw_ap.c`, and the flushes. -/
namespace Rtl8723au
set_option autoImplicit false

def NR_XMITFRAME : ℕ := 256

/-! ## Leaving -/

/-- `ap_free_sta` for a station that is taken off `asoc_list`. -/
def asocListLeave (padapter : RtwAdapter) (psta : StaId) : RtwAdapter :=
  if psta ∈ padapter.stapriv.asocList then
    apFreeSta (padapter.onStapriv (·.asocListDel psta)) psta
  else padapter

/-- `OnDeAuth` and `OnDisassoc` have the same body; `receive_disconnect`, which handles the frame outside
access point mode, is left out. -/
def onLeaveFrame (padapter : RtwAdapter) (addr2 addr3 : MacAddr) : RtwAdapter :=
  if addr3 ≠ padapter.bssid then padapter
  else if padapter.checkFwstate WIFI_AP_STATE then
    match rtwGetStainfo padapter.stapriv (some addr2) with
    | some psta => asocListLeave padapter psta
    | none => padapter
  else padapter

def onDeAuth (padapter : RtwAdapter) (addr2 addr3 : MacAddr) : RtwAdapter :=
  onLeaveFrame padapter addr2 addr3

def onDisassoc (padapter : RtwAdapter) (addr2 addr3 : MacAddr) : RtwAdapter :=
  onLeaveFrame padapter addr2 addr3

/-- `rtw_sta_flush`. -/
def rtwStaFlush (padapter : RtwAdapter) : RtwAdapter :=
  if padapter.mlmeinfoState &&& 0x03 ≠ WIFI_FW_AP_STATE then padapter
  else
    let chkAliveList := padapter.stapriv.asocList
    let padapter := padapter.onStapriv fun pstapriv => chkAliveList.foldl StaPriv.asocListDel pstapriv
    chkAliveList.foldl apFreeSta padapter

/-- `cfg80211_rtw_del_station`: a station that waits for its pairwise key is not deleted. -/
def cfg80211RtwDelStation (padapter : RtwAdapter) (mac : Option MacAddr) : RtwAdapter :=
  if !padapter.checkFwstate (WIFI_ASOC_STATE ||| WIFI_AP_STATE) then padapter
  else
    match mac with
    | none => rtwStaFlush padapter
    | some mac =>
      if mac = bcAddr then padapter
      else
        let doomed := padapter.stapriv.asocList.find? fun psta =>
          let info := padapter.staInfo psta
          mac == info.hwaddr && !(info.dot8021xalg == 1 && !info.bpairwiseKeyInstalled)
        match doomed with
        | some psta => asocListLeave padapter psta
        | none => padapter

/-! ## Power save -/

/-- `stop_sta_xmit`: `queued` frames go to the sleep queue. -/
def stopStaXmit (padapter : RtwAdapter) (psta : StaId) (queued : ℕ) : RtwAdapter :=
  let info := (padapter.staInfo psta).setState WIFI_SLEEP_STATE
  let padapter := padapter.setInfo psta (info.setSleepqLen (info.sleepqLen + queued))
  padapter.onStapriv (·.dzSet info.aid)

/-- The station part of `wakeup_sta_to_xmit`, with the sleep queue sent. -/
def wakeupInfo (expireTo : ℕ) (info : StaInfo) : StaInfo :=
  let info := info.setSleepqLen 0
  let info := if info.inState WIFI_SLEEP_STATE then info.toggleState WIFI_SLEEP_STATE else info
  if info.inState WIFI_STA_ALIVE_CHK_STATE then
    (info.toggleState WIFI_STA_ALIVE_CHK_STATE).setExpireTo expireTo
  else info

/-- `wakeup_sta_to_xmit`. -/
def wakeupStaToXmit (padapter : RtwAdapter) (psta : StaId) : RtwAdapter :=
  let info := wakeupInfo padapter.stapriv.expireTo (padapter.staInfo psta)
  let padapter := (padapter.setInfo psta info).onStapriv (·.dzClear info.aid)
  match rtwGetBcmcStainfo padapter.stapriv with
  | none => padapter
  | some pstaBmc =>
    if padapter.stapriv.staDzBitmap &&& 0xfffe = 0 then
      (padapter.setInfo pstaBmc ((padapter.staInfo pstaBmc).setSleepqLen 0)).onStapriv (·.dzClear 0)
    else padapter

/-- `process_pwrbit_data`. -/
def processPwrbitData (padapter : RtwAdapter) (src : MacAddr) (pwrbit : Bool) (queued : ℕ) :
    RtwAdapter :=
  match rtwGetStainfo padapter.stapriv (some src) with
  | none => padapter
  | some psta =>
    let asleep := (padapter.staInfo psta).inState WIFI_SLEEP_STATE
    if pwrbit then if asleep then padapter else stopStaXmit padapter psta queued
    else if asleep then wakeupStaToXmit padapter psta else padapter

/-! ## `expire_timeout_chk` -/

/-- What a tick reads from outside the station table: the stations heard since the last tick
(`chk_sta_is_alive`), those that answer `issue_nulldata`, and the free transmit frames. -/
structure ExpireInput where
  alive : StaId → Bool := fun _ => false
  nulldataAcked : StaId → Bool := fun _ => false
  freeXmitframeCnt : ℕ := NR_XMITFRAME

/-- One station of `auth_list`. -/
def authExpireOne (pstapriv : StaPriv) (psta : StaId) : StaPriv :=
  let info := pstapriv.staInfo psta
  if info.expireTo = 0 then pstapriv
  else
    let pstapriv := pstapriv.setInfo psta (info.setExpireTo (info.expireTo - 1))
    if info.expireTo = 1 then rtwFreeStainfo (pstapriv.authListDel psta) psta else pstapriv

/-- The time of a station of `asoc_list`. -/
def asocAge (expireTo : ℕ) (alive : Bool) (info : StaInfo) : StaInfo :=
  if alive || info.expireTo = 0 then (info.setExpireTo expireTo).setKeepAliveTrycnt 0
  else info.setExpireTo (info.expireTo - 1)

/-- The test of `sleep_q`; it divides by `asoc_list_cnt`. -/
def sleepqAging (padapter : RtwAdapter) (input : ExpireInput) (psta : StaId) : Option RtwAdapter :=
  let cnt := padapter.stapriv.asocListCnt.toNat
  if cnt = 0 then none
  else if NR_XMITFRAME / cnt < (padapter.staInfo psta).sleepqLen ∧
      input.freeXmitframeCnt < NR_XMITFRAME / cnt / 2 then
    some (wakeupStaToXmit padapter psta)
  else some padapter

/-- One station of `asoc_list`, with the stations to be checked by a null data frame. A step of the loop
that divides by zero has no result. -/
def asocCheckOne (input : ExpireInput) (x : RtwAdapter × List StaId) (psta : StaId) :
    Option (RtwAdapter × List StaId) :=
  let (padapter, chkAliveList) := x
  let expireTo := padapter.stapriv.expireTo
  let info := asocAge expireTo (input.alive psta) (padapter.staInfo psta)
  let padapter := padapter.setInfo psta info
  if info.expireTo = 0 then
    if padapter.wifiSpec = 1 then
      some (padapter.setInfo psta (info.setExpireTo expireTo), chkAliveList)
    else
      let dozing := info.inState WIFI_SLEEP_STATE && !info.inState WIFI_STA_ALIVE_CHK_STATE
      let padapter := if dozing then
          padapter.setInfo psta ((info.setExpireTo expireTo).setState WIFI_STA_ALIVE_CHK_STATE)
        else padapter
      if padapter.activeKeepAliveCheck then some (padapter, chkAliveList ++ [psta])
      else if dozing then some (padapter, chkAliveList)
      else some (apFreeSta (padapter.onStapriv (·.asocListDel psta)) psta, chkAliveList)
  else (sleepqAging padapter input psta).map fun padapter => (padapter, chkAliveList)

/-- One station of `chk_alive_list`. -/
def keepAliveOne (input : ExpireInput) (padapter : RtwAdapter) (psta : StaId) : RtwAdapter :=
  let info := padapter.staInfo psta
  if !info.inState _FW_LINKED then padapter
  else
    let keepAliveTrycnt := info.keepAliveTrycnt + 1
    if input.nulldataAcked psta then
      padapter.setInfo psta ((info.setExpireTo padapter.stapriv.expireTo).setKeepAliveTrycnt 0)
    else if keepAliveTrycnt ≤ 3 then
      padapter.setInfo psta ((info.setExpireTo 1).setKeepAliveTrycnt keepAliveTrycnt)
    else asocListLeave (padapter.setInfo psta (info.setKeepAliveTrycnt 0)) psta

def authExpire (padapter : RtwAdapter) : RtwAdapter :=
  padapter.onStapriv fun pstapriv => pstapriv.authList.foldl authExpireOne pstapriv

def asocCheck (padapter : RtwAdapter) (input : ExpireInput) : Option (RtwAdapter × List StaId) :=
  padapter.stapriv.asocList.foldlM (asocCheckOne input) (padapter, [])

/-- `expire_timeout_chk`. -/
def expireTimeoutChk (padapter : RtwAdapter) (input : ExpireInput) : Option RtwAdapter :=
  (asocCheck (authExpire padapter) input).map fun (padapter, chkAliveList) =>
    chkAliveList.foldl (keepAliveOne input) padapter

/-! ## Starting and stopping -/

/-- The counters and the slots that `start_ap_mode` clears, and its access list. -/
def startApMode (padapter : RtwAdapter) : RtwAdapter :=
  { padapter with
    mlmepriv := { padapter.mlmepriv with
      numStaNoShortPreamble := 0, numStaNonErp := 0, numStaNoShortSlotTime := 0
      numStaNoHt := 0, numStaHtNoGf := 0, numStaHt20mhz := 0 }
    stapriv := { padapter.stapriv with staAid := fun _ => none, aclMode := 0, aclNodeQ := [] } }

/-- The entry `rtw_check_beacon_data` allocates for the access point itself. -/
def allocBssStainfo (padapter : RtwAdapter) (macAddress : MacAddr) : RtwAdapter :=
  let isAp (info : StaInfo) := info.setState (BitVec.ofNat 32 WIFI_AP_STATE)
  match rtwGetStainfo padapter.stapriv (some macAddress) with
  | some psta => padapter.setInfo psta (isAp (padapter.staInfo psta))
  | none =>
    match rtwAllocStainfo padapter.stapriv macAddress with
    | (_, none) => padapter
    | (stapriv, some psta) =>
      padapter.setStapriv (stapriv.setInfo psta (isAp (stapriv.staInfo psta)))

/-- The number of stations `rtw_set_beacon` allows. -/
def setMaxNumSta (padapter : RtwAdapter) (n : ℕ) : RtwAdapter :=
  padapter.onStapriv fun pstapriv =>
    { pstapriv with maxNumSta := if NUM_STA < n ∨ n = 0 then NUM_STA else n }

/-- `stop_ap_mode`. -/
def stopApMode (padapter : RtwAdapter) : RtwAdapter :=
  let padapter := { padapter with securitypriv := {} }
  let padapter := padapter.onStapriv fun pstapriv =>
    { pstapriv with aclNodeQ := pstapriv.aclNodeQ.filter fun paclnode => !paclnode.valid }
  let padapter := rtwStaFlush padapter
  let padapter := padapter.onStapriv rtwFreeAllStainfo
  let padapter := match rtwGetBcmcStainfo padapter.stapriv with
    | some psta => padapter.onStapriv (rtwFreeStainfo · psta)
    | none => padapter
  padapter.onStapriv rtwInitBcmcStainfo

end Rtl8723au
