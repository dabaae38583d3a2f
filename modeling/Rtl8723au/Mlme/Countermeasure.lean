import Rtl8723au.Mlme.JoinRequest

/-! The TKIP countermeasures: `rtw_handle_tkip_mic_err` of `os_dep/recv_linux.c`, `rtw_reset_securitypriv` of
`os_dep/mlme_linux.c`, the checks in `core/rtw_ioctl_set.c` and the joins of a roaming station, over time. -/
namespace Rtl8723au
namespace Countermeasure
open GuardedRuns
set_option autoImplicit false

/-- The members of `securitypriv` that the countermeasures use, beside those of `mlme_priv`; and the history: the time of the
first event and of the current one, the MIC failures with whether each has set `btkip_countermeasure`, the last one that has,
the times at which `rtw_do_join` was called with the last such failure, and whether the record was wiped since the last
failure. -/
structure TkipState where
  mlme : MlmeJoin
  dot11AuthAlgrthm : ℕ := 0
  lastMicErrTime : BitVec 32 := 0
  btkipCountermeasure : Bool := false
  btkipCountermeasureTime : BitVec 32 := 0
  first : ℕ
  now : ℕ
  mics : List (ℕ × Bool) := []
  trigger : Option ℕ := none
  joins : List (ℕ × Option ℕ) := []
  wiped : Bool := false

namespace TkipState

variable (hz : ℕ)

/-- `rtw_get_current_time`. -/
def rtwGetCurrentTime (s : TkipState) : BitVec 32 := BitVec.ofNat 32 s.now

def onMlme (s : TkipState) (f : MlmeJoin → MlmeJoin) : TkipState := { s with mlme := f s.mlme }

def checkFwstate (s : TkipState) (state : ℕ) : Bool := s.mlme.checkFwstate state

def locked (f : TkipState → TkipState) (s : TkipState) : TkipState :=
  (f (s.onMlme (·.spinLockBh))).onMlme (·.spinUnlockBh)

/-! ## A MIC failure -/

/-- `rtw_handle_tkip_mic_err`. -/
def rtwHandleTkipMicErr (s : TkipState) : TkipState :=
  let curTime := s.rtwGetCurrentTime
  if s.lastMicErrTime = 0 then
    { s with lastMicErrTime := curTime, mics := (s.now, false) :: s.mics, wiped := false }
  else if (curTime - s.lastMicErrTime).toNat < 60 * hz then
    { s with
      btkipCountermeasure := true
      lastMicErrTime := 0
      btkipCountermeasureTime := curTime
      mics := (s.now, true) :: s.mics
      trigger := some s.now
      wiped := false }
  else { s with lastMicErrTime := curTime, mics := (s.now, false) :: s.mics, wiped := false }

/-! ## A disconnect -/

/-- `rtw_reset_securitypriv`; the last failure is not among what it backs up. -/
def rtwResetSecuritypriv (s : TkipState) : TkipState :=
  if s.dot11AuthAlgrthm = dot11AuthAlgrthm_8021X then
    { s with dot11AuthAlgrthm := 0, lastMicErrTime := 0, wiped := true }
  else { s with dot11AuthAlgrthm := 0 }

/-- `rtw_indicate_disconnect`, which tells the system, and so resets the keys, unless the station is roaming. -/
def rtwIndicateDisconnect (s : TkipState) : TkipState :=
  let s := s.onMlme (·.rtwIndicateDisconnect)
  if s.mlme.toRoaming = 0 then s.rtwResetSecuritypriv else s

/-! ## Joining -/

/-- `rtw_select_and_join_from_scanned_queue`. -/
def rtwSelectAndJoinFromScannedQueue (s : TkipState) (env : SelectEnv) : TkipState × Bool :=
  match s.mlme.candidate env with
  | none => (s, false)
  | some candidate =>
    let s := if s.checkFwstate WIFI_ASOC_STATE then s.rtwIndicateDisconnect.onMlme (·.rtwFreeAssocResources) else s
    let r := (s.mlme.setFwstate WIFI_UNDER_LINKING).rtwJoinbssCmd candidate env.cmd
    ({ s with mlme := r.1 }, r.2)

def surveyFirst (s : TkipState) (env : DoJoinEnv) : TkipState × Bool :=
  ({ s with mlme := (s.mlme.surveyFirst env).1 }, (s.mlme.surveyFirst env).2)

/-- `rtw_do_join`. -/
def rtwDoJoin (s : TkipState) (env : DoJoinEnv) : TkipState × Bool :=
  let s := { s with joins := (s.now, s.trigger) :: s.joins }
  let s := s.onMlme fun m => (m.setFwstate WIFI_UNDER_LINKING).setToJoin true
  if s.mlme.scanned.queue .scannedQueue = [] then (s.onMlme (·.clrFwstate WIFI_UNDER_LINKING)).surveyFirst env
  else
    match s.rtwSelectAndJoinFromScannedQueue env.select with
    | (s, true) => (s.onMlme fun m => (m.setToJoin false).setAssocTimer true, true)
    | (s, false) =>
      if s.checkFwstate WIFI_ADHOC_STATE then
        let s := s.onMlme (·.becomeAdhocMaster)
        if env.createbss then (s.onMlme (·.setToJoin false), true) else (s, false)
      else (s.onMlme (·.clrFwstate WIFI_UNDER_LINKING)).surveyFirst env

/-! ## The requests -/

def leaveForRequest (s : TkipState) : TkipState :=
  let s := if s.checkFwstate WIFI_ASOC_STATE then s.rtwIndicateDisconnect else s
  let s := s.onMlme (·.rtwFreeAssocResources)
  if s.checkFwstate WIFI_ADHOC_MASTER_STATE then
    s.onMlme fun m => (m.clrFwstate WIFI_ADHOC_MASTER_STATE).setFwstate WIFI_ADHOC_STATE
  else s

/-- What stands behind the check: the request is noted, for the end of the survey or for now. -/
def joinNow (s : TkipState) (record : MlmeJoin → MlmeJoin) (env : DoJoinEnv) : TkipState :=
  let s := s.onMlme record
  if s.checkFwstate WIFI_SITE_MONITOR then s.onMlme (·.setToJoin true) else (s.rtwDoJoin env).1

/-- The label `handle_tkip_countermeasure` and what follows. -/
def handleTkipCountermeasure (s : TkipState) (record : MlmeJoin → MlmeJoin) (env : DoJoinEnv) : TkipState :=
  if s.btkipCountermeasure then
    if 60 * hz < (s.rtwGetCurrentTime - s.btkipCountermeasureTime).toNat then
      { s with btkipCountermeasure := false, btkipCountermeasureTime := 0 }.joinNow record env
    else s
  else s.joinNow record env

/-- The part of a request in front of the label; nothing when it goes to `release_mlme_lock`. -/
def requestGate (s : TkipState) (leave : TkipState → Option TkipState) : Option TkipState :=
  if s.checkFwstate WIFI_SITE_MONITOR then some s
  else if s.checkFwstate WIFI_UNDER_LINKING then none
  else if s.checkFwstate (WIFI_ASOC_STATE ||| WIFI_ADHOC_MASTER_STATE) then leave s
  else some s

def leaveBssid (bssid : MacAddr) (s : TkipState) : Option TkipState :=
  if s.mlme.curMac = bssid then if s.checkFwstate WIFI_STATION_STATE then some s else none
  else some s.leaveForRequest

/-- `rtw_set_802_11_bssid`. -/
def rtwSet80211Bssid (s : TkipState) (bssid : MacAddr) (env : DoJoinEnv) : TkipState :=
  if bssid = Vector.replicate 6 0 ∨ bssid = bcAddr then s
  else
    s.locked fun s =>
      match s.requestGate (leaveBssid bssid) with
      | none => s
      | some s => s.handleTkipCountermeasure hz (fun m => { m with assocBssid := bssid, assocByBssid := true }) env

def leaveSsid (ssid : Ndis80211Ssid) (sameIbss : Bool) (s : TkipState) : Option TkipState :=
  if s.mlme.assocSsid.same ssid then
    if s.checkFwstate WIFI_STATION_STATE then some s
    else if sameIbss then none else some s.leaveForRequest
  else some s.leaveForRequest

/-- `rtw_set_802_11_ssid`. -/
def rtwSet80211Ssid (s : TkipState) (ssid : Ndis80211Ssid) (hwInitCompleted sameIbss : Bool) (env : DoJoinEnv) :
    TkipState :=
  if !hwInitCompleted then s
  else
    s.locked fun s =>
      match s.requestGate (leaveSsid ssid sameIbss) with
      | none => s
      | some s => s.handleTkipCountermeasure hz (fun m => { m with assocSsid := ssid, assocByBssid := false }) env

/-! ## Roaming -/

def roamingLoop (env : ℕ → DoJoinEnv) : ℕ → TkipState → TkipState
  | 0, s => s.rtwIndicateDisconnect
  | n + 1, s =>
    match s.rtwDoJoin (env n) with
    | (s, true) => s
    | (s, false) => roamingLoop env n (s.onMlme (·.setToRoaming n))

/-- `_rtw_roaming`, which does not look at the countermeasure. -/
def rtwRoamingCore (s : TkipState) (env : ℕ → DoJoinEnv) : TkipState :=
  if 0 < s.mlme.toRoaming then roamingLoop env s.mlme.toRoaming (s.onMlme (·.roamFrom)) else s

/-- `rtw_roaming`. -/
def rtwRoaming (s : TkipState) (env : ℕ → DoJoinEnv) : TkipState := s.locked (·.rtwRoamingCore env)

/-- `_rtw_join_timeout_handler`. -/
def rtwJoinTimeoutHandler (s : TkipState) (env : ℕ → DoJoinEnv) : TkipState :=
  (s.onMlme (·.setAssocTimer false)).locked fun s =>
    if 0 < s.mlme.toRoaming then
      roamingLoop env (s.mlme.toRoaming - 1) (s.onMlme fun m => m.setToRoaming (m.toRoaming - 1))
    else s.rtwIndicateDisconnect.onMlme fun m => m.onScanned (·.freeScanqueue)

end TkipState

open TkipState

/-! ## The machine -/

inductive TkipEvent
  | micErr
  | setBssid (bssid : MacAddr) (env : DoJoinEnv)
  | setSsid (ssid : Ndis80211Ssid) (hwInitCompleted sameIbss : Bool) (env : DoJoinEnv)
  -- a disconnect, whichever handler it comes from
  | disconnect
  -- the security reset of a join that was refused
  | resetSecurity
  | roaming (env : ℕ → DoJoinEnv)
  | joinTimeout (env : ℕ → DoJoinEnv)
  -- the rest of the driver, and the authentication algorithm that is configured
  | other (mlme : MlmeJoin) (dot11AuthAlgrthm : ℕ)

/-- An event and its time. -/
structure TimedEvent where
  time : ℕ
  event : TkipEvent

namespace TkipState

def handle (hz : ℕ) (s : TkipState) : TkipEvent → TkipState
  | .micErr => s.rtwHandleTkipMicErr hz
  | .setBssid bssid env => s.rtwSet80211Bssid hz bssid env
  | .setSsid ssid hwInitCompleted sameIbss env => s.rtwSet80211Ssid hz ssid hwInitCompleted sameIbss env
  | .disconnect => s.rtwIndicateDisconnect
  | .resetSecurity => s.rtwResetSecuritypriv
  | .roaming env => s.rtwRoaming env
  | .joinTimeout env => s.rtwJoinTimeoutHandler env
  | .other mlme dot11AuthAlgrthm => { s with mlme := mlme, dot11AuthAlgrthm := dot11AuthAlgrthm }

def atTime (s : TkipState) (time : ℕ) : TkipState := { s with now := time }

def step (hz : ℕ) (s : TkipState) (e : TimedEvent) : Option TkipState := some ((s.atTime e.time).handle hz e.event)

def start (mlme : MlmeJoin) (time : ℕ) : TkipState where
  mlme := mlme
  first := time
  now := time

/-- The ticks do not go back, are not zero and span less than 2^32. -/
def Ticks (s : TkipState) (e : TimedEvent) : Prop :=
  s.now ≤ e.time ∧ e.time < s.first + 2 ^ 32 ∧ BitVec.ofNat 32 e.time ≠ 0

end TkipState

/-! ## What should hold -/

/-- Of two failures in sequence, the newest first, that are less than 60 seconds apart and of which the older did not set the
flag, the newer did. -/
def Reacts (hz : ℕ) : List (ℕ × Bool) → Prop
  | newer :: older :: rest =>
    (newer.1 < older.1 + 60 * hz → older.2 = false → newer.2 = true) ∧ Reacts hz (older :: rest)
  | _ => True

/-- No join was started less than 60 seconds after the flag was set, and each failure was reacted to. -/
structure Holds (hz : ℕ) (s : TkipState) : Prop where
  reacts : Reacts hz s.mics
  joins : ∀ j ∈ s.joins, ∀ t, j.2 = some t → t + 60 * hz ≤ j.1

/-! ## When it does -/

/-- The ban that the last countermeasure has set is over. -/
def BanOver (hz : ℕ) (s : TkipState) (time : ℕ) : Prop := ∀ t, s.trigger = some t → t + 60 * hz ≤ time

/-- A failure comes less than 60 seconds after one that has set nothing. -/
def Follows (hz : ℕ) (s : TkipState) (time : ℕ) : Prop :=
  ∃ t rest, s.mics = (t, false) :: rest ∧ time < t + 60 * hz

/-- The condition on a step: the record of a failure that is to be followed was not wiped, and no roaming station joins
during the ban. -/
def Keeps (hz : ℕ) (s : TkipState) (e : TimedEvent) : Prop :=
  match e.event with
  | .micErr => Follows hz s e.time → s.wiped = false
  | .roaming _ => 0 < s.mlme.toRoaming → BanOver hz s e.time
  | .joinTimeout _ => 1 < s.mlme.toRoaming → BanOver hz s e.time
  | _ => True

end Countermeasure

end Rtl8723au
