import Rtl8723au.Include.Adapter
import Rtl8723au.Library.Intrusive

/-! The table of scanned networks of `core/rtw_mlme.c`: the `MAX_BSS_CNT` entries of `free_bss_buf`, which are
in `free_bss_pool` or in `scanned_queue`, and all code that moves, writes or marks them. -/
namespace Rtl8723au
open Intrusive
set_option autoImplicit false

/-! ## A network -/

-- the literals of the length of the elements and of a place among them
instance neZero_ieLength : NeZero 769 := ⟨by decide⟩
instance neZero_ies : NeZero 768 := ⟨by decide⟩

/-- `WLAN_BSSID_EX`, with the members that the table's code reads. -/
structure WlanBssidEx where
  macAddress : MacAddr := Vector.replicate 6 0
  reserved0 : UInt8 := 0
  ssidLength : Fin 33 := 0
  ssid : Vector UInt8 32 := Vector.replicate 32 0
  rssi : ℤ := 0
  infrastructureMode : ℕ := 0
  signalStrength : UInt8 := 0
  signalQuality : UInt8 := 0
  ieLength : Fin 769 := 0
  ies : Fin 768 → UInt8 := fun _ => 0

namespace WlanBssidEx

/-- `memcpy` of `get_WLAN_BSSID_EX_sz(src)` bytes: the elements behind `IELength` stay as they were. -/
def copyBssid (dst src : WlanBssidEx) : WlanBssidEx :=
  { src with ies := fun i => if i.val < src.ieLength.val then src.ies i else dst.ies i }

/-- The capability field of `rtw_get_capability_from_ie`, little end first. -/
def capability (b : WlanBssidEx) : BitVec 16 := (b.ies 11).toBitVec ++ (b.ies 10).toBitVec

def WLAN_CAPABILITY_ESS : BitVec 16 := 1
def WLAN_CAPABILITY_IBSS : BitVec 16 := 2

def isSameNetwork (src dst : WlanBssidEx) : Bool :=
  src.ssidLength == dst.ssidLength &&
    src.macAddress == dst.macAddress &&
    src.ssid.toList.take src.ssidLength == dst.ssid.toList.take src.ssidLength &&
    src.capability &&& WLAN_CAPABILITY_IBSS == dst.capability &&& WLAN_CAPABILITY_IBSS &&
    src.capability &&& WLAN_CAPABILITY_ESS == dst.capability &&& WLAN_CAPABILITY_ESS

/-- A signal quality of 101 stands for a frame from another channel. -/
def noQuality (b : WlanBssidEx) : WlanBssidEx := if b.signalQuality = 101 then { b with signalQuality := 0 } else b

end WlanBssidEx

/-- `struct wlan_network`. -/
structure WlanNetwork where
  network : WlanBssidEx := {}
  fixed : Bool := false
  lastScanned : BitVec 64 := 0

abbrev NetId := Fin 128

inductive BssQueue
  | freeBssPool
  | scannedQueue
  deriving DecidableEq

/-! ## The table -/

def WIFI_NULL_STATE : ℕ := 0x00000000
def WIFI_UNDER_WPS : ℕ := 0x00000100

def Ndis802_11IBSS : ℕ := 0
def Ndis802_11Infrastructure : ℕ := 1

/-- The members of `mlme_priv` and `recvpriv` that the table's code reads and writes. -/
structure Scanned where
  entry : NetId → WlanNetwork := fun _ => {}
  queue : BssQueue → List NetId
  numOfScanned : BitVec 32 := 0
  curNetwork : WlanBssidEx := {}
  fwState : BitVec 32 := 0
  signalStrength : UInt8 := 0
  signalQual : UInt8 := 0

namespace Scanned

/-- `_rtw_init_mlme_priv`. -/
def rtwInitMlmePriv : Scanned where
  queue
    | .freeBssPool => List.finRange 128
    | .scannedQueue => []

def checkFwstate (s : Scanned) (state : ℕ) : Bool := s.fwState &&& BitVec.ofNat 32 state != 0

def setFwstate (s : Scanned) (state : ℕ) : Scanned := { s with fwState := s.fwState ||| BitVec.ofNat 32 state }

def clrFwstate (s : Scanned) (state : ℕ) : Scanned := { s with fwState := s.fwState &&& ~~~BitVec.ofNat 32 state }

def setEntry (s : Scanned) (n : NetId) (e : WlanNetwork) : Scanned := { s with entry := Function.update s.entry n e }

def setFixed (s : Scanned) (n : NetId) (fixed : Bool) : Scanned := s.setEntry n { s.entry n with fixed := fixed }

/-- `time_after(a, b)` for `unsigned long` of 64 bits. -/
def timeAfter (a b : BitVec 64) : Bool := (b - a).msb

/-- `_rtw_alloc_network`; the entry is in no list until its caller puts it in one. -/
def rtwAllocNetwork (s : Scanned) (now : BitVec 32) : Option NetId × Scanned :=
  match s.queue .freeBssPool with
  | [] => (none, s)
  | pnetwork :: _ =>
    let e := s.entry pnetwork
    (some pnetwork,
      { s.setEntry pnetwork { e with fixed := false, lastScanned := now.setWidth 64 } with
        queue := delInit s.queue pnetwork
        numOfScanned := s.numOfScanned + 1 })

/-- The end of `_rtw_free_network` and of `_rtw_free_network_nolock`. -/
def putBack (s : Scanned) (pnetwork : NetId) : Scanned :=
  { s with queue := moveTail s.queue .freeBssPool pnetwork, numOfScanned := s.numOfScanned - 1 }

def SCANQUEUE_LIFETIME : ℕ := 20

/-- `_rtw_free_network`, at the time `now`; the kernel has `hz` ticks a second. -/
def rtwFreeNetwork (hz : ℕ) (s : Scanned) (pnetwork : NetId) (isfreeall : Bool) (now : BitVec 32) : Scanned :=
  if (s.entry pnetwork).fixed then s
  else
    let lifetime :=
      if s.checkFwstate WIFI_ADHOC_MASTER_STATE || s.checkFwstate WIFI_ADHOC_STATE then 1 else SCANQUEUE_LIFETIME
    let deltaTime := BitVec.ofNat 32 ((now.setWidth 64 - (s.entry pnetwork).lastScanned).toNat / hz)
    if !isfreeall && deltaTime.toNat < lifetime then s else s.putBack pnetwork

def rtwFreeNetworkNolock (s : Scanned) (pnetwork : Option NetId) : Scanned :=
  match pnetwork with
  | none => s
  | some pnetwork => if (s.entry pnetwork).fixed then s else s.putBack pnetwork

/-- `_rtw_find_network` on `scanned_queue`. -/
def rtwFindNetwork (s : Scanned) (addr : MacAddr) : Option NetId :=
  if addr = Vector.replicate 6 0 then none
  else (s.queue .scannedQueue).find? fun n => (s.entry n).network.macAddress == addr

/-- `_rtw_free_network_queue`; the entry `n` is looked at at the time `now n`. -/
def rtwFreeNetworkQueue (hz : ℕ) (s : Scanned) (isfreeall : Bool) (now : NetId → BitVec 32) : Scanned :=
  (s.queue .scannedQueue).foldl (fun s n => rtwFreeNetwork hz s n isfreeall (now n)) s

/-- `free_scanqueue`, which does not look at the entries. -/
def freeScanqueue (s : Scanned) : Scanned := (s.queue .scannedQueue).foldl putBack s

/-! ## The oldest entry -/

def older (s : Scanned) (oldest : Option NetId) (n : NetId) : Option NetId :=
  match oldest with
  | none => some n
  | some o => if timeAfter (s.entry o).lastScanned (s.entry n).lastScanned then some n else some o

/-- `rtw_get_oldest_wlan_network`. -/
def rtwGetOldestWlanNetwork (s : Scanned) : Option NetId :=
  (s.queue .scannedQueue).foldl (fun oldest n => if (s.entry n).fixed then oldest else s.older oldest n) none

/-- The search of `rtw_update_scanned_network`: the entry that is the same network, and the oldest of those in
front of it. -/
def scanLoop (s : Scanned) (target : WlanBssidEx) : List NetId → Option NetId → Option NetId × Option NetId
  | [], oldest => (none, oldest)
  | n :: rest, oldest =>
    if (s.entry n).network.isSameNetwork target then (some n, oldest)
    else scanLoop s target rest (s.older oldest n)

/-! ## A scan result -/

/-- `update_network`. -/
def updateNetwork (s : Scanned) (dst src : WlanBssidEx) (updateIe : Bool) : WlanBssidEx :=
  let fifth (sample history : UInt8) : UInt8 := UInt8.ofNat ((sample.toNat + history.toNat * 4) / 5)
  let rssi := (src.rssi + dst.rssi * 4).tdiv 5
  let (ssFinal, sqFinal, rssiFinal) :=
    if s.checkFwstate WIFI_ASOC_STATE && s.curNetwork.isSameNetwork src then
      (s.signalStrength, s.signalQual, if src.signalQuality ≠ 101 then rssi else dst.rssi)
    else if src.signalQuality ≠ 101 then
      (fifth src.signalStrength dst.signalStrength, fifth src.signalQuality dst.signalQuality, rssi)
    else (dst.signalStrength, dst.signalQuality, dst.rssi)
  let dst := if updateIe then dst.copyBssid src else dst
  { dst with signalStrength := ssFinal, signalQuality := sqFinal, rssi := rssiFinal }

/-- `rtw_update_scanned_network`. -/
def rtwUpdateScannedNetwork (s : Scanned) (target : WlanBssidEx) (now : BitVec 32) : Scanned :=
  match s.scanLoop target (s.queue .scannedQueue) none with
  | (some pnetwork, _) =>
    let e := s.entry pnetwork
    let updateIe := !(decide (target.ieLength < e.network.ieLength) && target.reserved0 == 1)
    s.setEntry pnetwork { e with lastScanned := now.setWidth 64, network := s.updateNetwork e.network target updateIe }
  | (none, oldest) =>
    if s.queue .freeBssPool = [] then
      match oldest with
      -- with 128 entries there is one
      | none => s
      | some pnetwork =>
        let network := (s.entry pnetwork).network.copyBssid target
        s.setEntry pnetwork { network := network.noQuality, fixed := false, lastScanned := now.setWidth 64 }
    else
      match s.rtwAllocNetwork now with
      | (none, s) => s
      | (some pnetwork, s) =>
        let e := s.entry pnetwork
        let network := e.network.copyBssid target
        { s.setEntry pnetwork { e with network := network.noQuality, lastScanned := now.setWidth 64 } with
          queue := addTail s.queue .scannedQueue pnetwork }

/-- The time stamp that `rtw_survey_event_callback` copies for the own cell of an ad hoc master. -/
def surveyTimestamp (s : Scanned) (pnetwork : WlanBssidEx) : Scanned :=
  match s.rtwFindNetwork pnetwork.macAddress with
  | none => s
  | some ibssWlan =>
    let e := s.entry ibssWlan
    s.setEntry ibssWlan
      { e with network := { e.network with ies := fun i => if i.val < 8 then pnetwork.ies i else e.network.ies i } }

/-! ## A cell of the station's own -/

/-- `rtw_createbss_cmd_callback`, which goes on when the command failed; `psta` tells whether an access point
found or got its station entry. -/
def rtwCreatebssCmdCallback (s : Scanned) (pnetwork : WlanBssidEx) (psta : Bool) (now : BitVec 32) : Scanned :=
  if s.checkFwstate WIFI_AP_STATE then if psta then s.setFwstate WIFI_ASOC_STATE else s
  else
    let write (s : Scanned) (pwlan : NetId) : Scanned :=
      let e := s.entry pwlan
      let s := s.setEntry pwlan { e with network := e.network.copyBssid pnetwork }
      { s with curNetwork := s.curNetwork.copyBssid pnetwork }.clrFwstate WIFI_UNDER_LINKING
    match s.rtwAllocNetwork now with
    | (none, s) =>
      match s.rtwGetOldestWlanNetwork with
      | none => s
      | some pwlan => write (s.setEntry pwlan { s.entry pwlan with lastScanned := now.setWidth 64 }) pwlan
    | (some pwlan, s) => write { s with queue := addTail s.queue .scannedQueue pwlan } pwlan

/-! ## Joining -/

/-- `rtw_indicate_connect`. -/
def rtwIndicateConnect (s : Scanned) : Scanned := s.setFwstate WIFI_ASOC_STATE

/-- `rtw_indicate_disconnect`; `_FW_LINKED` goes with or without roaming. -/
def rtwIndicateDisconnect (s : Scanned) : Scanned :=
  (s.clrFwstate (WIFI_UNDER_LINKING ||| WIFI_UNDER_WPS)).clrFwstate WIFI_ASOC_STATE

def markFixed (s : Scanned) (n : Option NetId) (fixed : Bool) : Scanned :=
  match n with
  | none => s
  | some n => s.setFixed n fixed

/-- `rtw_joinbss_update_network`. -/
def rtwJoinbssUpdateNetwork (s : Scanned) (ptargetWlan : NetId) (pnetwork : WlanBssidEx) : Scanned :=
  let target := (s.entry ptargetWlan).network
  let fwState :=
    if pnetwork.infrastructureMode = Ndis802_11Infrastructure then
      if s.checkFwstate WIFI_UNDER_WPS then WIFI_STATION_STATE ||| WIFI_UNDER_WPS else WIFI_STATION_STATE
    else if pnetwork.infrastructureMode = Ndis802_11IBSS then WIFI_ADHOC_STATE
    else WIFI_NULL_STATE
  { s with
    curNetwork := { pnetwork with ieLength := target.ieLength, ies := target.ies }
    signalStrength := target.signalStrength
    signalQual := target.signalQuality
    fwState := BitVec.ofNat 32 fwState }

/-- `s1` of `rtw_joinbss_event_prehandle`: the entry that is joined, marked. -/
def joinTarget (s : Scanned) (pnetwork : WlanBssidEx) : Option NetId × Scanned :=
  let cur := s.curNetwork.macAddress
  if s.checkFwstate WIFI_ASOC_STATE && pnetwork.macAddress == cur then (s.rtwFindNetwork cur, s)
  else
    let s := if s.checkFwstate WIFI_ASOC_STATE then s.markFixed (s.rtwFindNetwork cur) false else s
    let ptargetWlan := s.rtwFindNetwork pnetwork.macAddress
    (ptargetWlan, if s.checkFwstate WIFI_STATION_STATE then s.markFixed ptargetWlan true else s)

/-- `rtw_joinbss_event_prehandle`; `updated` tells whether `rtw_joinbss_update_stainfo` found a station entry. -/
def rtwJoinbssEventPrehandle (s : Scanned) (joinRes : ℤ) (pnetwork : WlanBssidEx) (updated : Bool) : Scanned :=
  if 0 < joinRes then
    if s.checkFwstate WIFI_UNDER_LINKING then
      match s.joinTarget pnetwork with
      | (none, s) => s
      | (some ptargetWlan, s) =>
        let s := s.rtwJoinbssUpdateNetwork ptargetWlan pnetwork
        if s.checkFwstate WIFI_STATION_STATE && updated then s.rtwIndicateConnect else s
    else s
  else s.clrFwstate WIFI_UNDER_LINKING

/-- What `rtw_stassoc_event_callback` does to the table when a station of an ad hoc cell is new. -/
def rtwStassocEventCallback (s : Scanned) (asocStaCount : ℕ) : Scanned :=
  if (s.checkFwstate WIFI_ADHOC_MASTER_STATE || s.checkFwstate WIFI_ADHOC_STATE) && asocStaCount == 2 then
    (s.markFixed (s.rtwFindNetwork s.curNetwork.macAddress) true).rtwIndicateConnect
  else s

/-! ## Disconnecting -/

/-- `rtw_free_assoc_resources`. -/
def rtwFreeAssocResources (s : Scanned) (asocStaCount : ℕ) : Scanned :=
  let pwlan := s.rtwFindNetwork s.curNetwork.macAddress
  let s := s.markFixed pwlan false
  if s.checkFwstate WIFI_ADHOC_MASTER_STATE && asocStaCount == 1 then s.rtwFreeNetworkNolock pwlan else s

/-- The entry of the current network loses its mark and goes back to the pool. -/
def removeCurrent (s : Scanned) : Scanned :=
  let pwlan := s.rtwFindNetwork s.curNetwork.macAddress
  (s.markFixed pwlan false).rtwFreeNetworkNolock pwlan

/-- `rtw_stadel_event_callback`; `asocStaCount` is the count that `rtw_free_assoc_resources` finds and
`remaining` the one when the station of an ad hoc cell has been freed. -/
def rtwStadelEventCallback (s : Scanned) (asocStaCount remaining : ℕ) : Scanned :=
  if s.checkFwstate WIFI_AP_STATE then s
  else
    let s :=
      if s.checkFwstate WIFI_STATION_STATE then (s.rtwFreeAssocResources asocStaCount).rtwIndicateDisconnect.removeCurrent
      else s
    if s.checkFwstate WIFI_ADHOC_MASTER_STATE || s.checkFwstate WIFI_ADHOC_STATE then
      let s := if remaining == 1 then s.removeCurrent else s
      if remaining == 1 && s.checkFwstate WIFI_ADHOC_STATE then
        (s.setFwstate WIFI_ADHOC_MASTER_STATE).clrFwstate WIFI_ADHOC_STATE
      else s
    else s

/-- `_rtw_join_timeout_handler` without roaming. -/
def rtwJoinTimeoutHandler (s : Scanned) : Scanned := s.rtwIndicateDisconnect.freeScanqueue

/-! ## The machine -/

inductive Event
  | update (target : WlanBssidEx) (now : BitVec 32)
  | surveyTimestamp (pnetwork : WlanBssidEx)
  | freeQueue (isfreeall : Bool) (now : NetId → BitVec 32)
  | createbss (pnetwork : WlanBssidEx) (psta : Bool) (now : BitVec 32)
  | joinbss (joinRes : ℤ) (pnetwork : WlanBssidEx) (updated : Bool)
  | stassoc (asocStaCount : ℕ)
  | freeAssocResources (asocStaCount : ℕ)
  | stadel (asocStaCount remaining : ℕ)
  | joinTimeout
  -- the rest of the driver: the state, the current network and its signal
  | other (fwState : BitVec 32) (curNetwork : WlanBssidEx) (signalStrength signalQual : UInt8)

def step (hz : ℕ) (s : Scanned) : Event → Scanned
  | .update target now => s.rtwUpdateScannedNetwork target now
  | .surveyTimestamp pnetwork => s.surveyTimestamp pnetwork
  | .freeQueue isfreeall now => s.rtwFreeNetworkQueue hz isfreeall now
  | .createbss pnetwork psta now => s.rtwCreatebssCmdCallback pnetwork psta now
  | .joinbss joinRes pnetwork updated => s.rtwJoinbssEventPrehandle joinRes pnetwork updated
  | .stassoc asocStaCount => s.rtwStassocEventCallback asocStaCount
  | .freeAssocResources asocStaCount => s.rtwFreeAssocResources asocStaCount
  | .stadel asocStaCount remaining => s.rtwStadelEventCallback asocStaCount remaining
  | .joinTimeout => s.rtwJoinTimeoutHandler
  | .other fwState curNetwork signalStrength signalQual =>
    { s with
      fwState := fwState
      curNetwork := curNetwork
      signalStrength := signalStrength
      signalQual := signalQual }

def run (hz : ℕ) (s : Scanned) (events : List Event) : Scanned := events.foldl (step hz) s

end Scanned

end Rtl8723au
