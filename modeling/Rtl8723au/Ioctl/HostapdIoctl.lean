import Rtl8723au.Ap.BssCap
import Rtl8723au.Ap.Beacon
import Rtl8723au.Ap.OdmStaInfo
import Rtl8723au.Ioctl.SetEncryption
import Rtl8723au.Library.Regions

/-! The memory that the private requests of `hostapd` and `wpa_supplicant` are handled in: the copy of the request, which
is `p->length` bytes long, the buffers that are allocated for it and the arrays of the driver that it is copied to. -/
namespace Rtl8723au
open Mem Security AccessM Regions
set_option autoImplicit false

def EPERM : ℤ := 1
def ENOMEM : ℤ := 12
def EFAULT : ℤ := 14
def EOPNOTSUPP : ℤ := 95

def NDIS_802_11_LENGTH_SSID : ℕ := 32
def MAX_WPA_IE_LEN : ℕ := 256
def MAX_WPS_IE_LEN : ℕ := 512

/-- `sizeof(struct ieee80211_ht_cap)`. -/
def sizeofHtCap : ℕ := 26

/-- A buffer is named with the size it is allocated with, and an array of keys one key at a time. -/
inductive IoctlRegion
  | param
  -- buffers
  | pwep (keyLength : ℕ)
  | setkeyParm
  | setStakeyParm
  | wpsIe (ieLen : ℕ)
  | buf (ielen : ℕ)
  | ssid
  -- keys
  | dot11DefKey (idx : ℕ)
  | dot118021XGrpKey (idx : ℕ)
  | dot118021XGrptxmickey (idx : ℕ)
  | dot118021XGrprxmickey (idx : ℕ)
  | dot118021xUncstKey (psta : StaId)
  | dot11tkiptxmickey (psta : StaId)
  | dot11tkiprxmickey (psta : StaId)
  -- other arrays, and in `odmStaInfo` the elements of one
  | maxNumSta
  | ies
  | curSsid
  | extSsid
  | bssrateset (psta : StaId)
  | htCap (psta : StaId)
  | staWpaIe (psta : StaId)
  | staStats (psta : StaId)
  | odmStaInfo
  | supplicantIe
  | securityWpsIe
  deriving DecidableEq

namespace IoctlRegion

/-- The size of a region, for a request of `length` bytes. -/
def size (length : ℕ) : IoctlRegion → ℕ
  | param => length
  | pwep keyLength => keyLength
  | setkeyParm => 16
  | setStakeyParm => 16
  | wpsIe ieLen => ieLen
  | buf ielen => ielen
  | ssid => NDIS_802_11_LENGTH_SSID + 1
  | dot11DefKey idx => if idx < WEP_KEYS then 16 else 0
  | dot118021XGrpKey idx => if idx < WEP_KEYS then 16 else 0
  | dot118021XGrptxmickey idx => if idx < WEP_KEYS then 16 else 0
  | dot118021XGrprxmickey idx => if idx < WEP_KEYS then 16 else 0
  | dot118021xUncstKey _ => 16
  | dot11tkiptxmickey _ => 16
  | dot11tkiprxmickey _ => 16
  | maxNumSta => 4
  | ies => MAX_IE_SZ
  | curSsid => NDIS_802_11_LENGTH_SSID
  | extSsid => NDIS_802_11_LENGTH_SSID
  | bssrateset _ => 16
  | htCap _ => sizeofHtCap
  | staWpaIe _ => 32
  | staStats _ => 48
  | odmStaInfo => ODM_ASSOCIATE_ENTRY_NUM
  | supplicantIe => 256
  | securityWpsIe => MAX_WPS_IE_LEN

end IoctlRegion

/-- What a request meets: the driver, the answers of the allocator and of `copy_from_user`, and whether the messages of
`DBG_8723A` are printed. `aclDone`, `started` and `paramDone` are the answers of the list of addresses, of the part of
`rtw_check_beacon_data` behind the copy, and of `wpa_set_param` and `wpa_mlme`. -/
structure IoctlEnv where
  padapter : RtwAdapter := {}
  hwInitCompleted : Bool := true
  pointer : Bool := true
  kmalloc : Bool := true
  copied : Bool := true
  debug : Bool := true
  pwep : Bool := true
  cmd : Bool := true
  buf : Bool := true
  aclDone : Bool := true
  started : Bool := true
  paramDone : Bool := true

namespace Ioctl

abbrev Io := R IoctlRegion

/-! ## `struct ieee_param` -/

def loadCmd : Io ℕ := loadLe .param 0 4
def loadStaAddr : Io MacAddr := loadVec .param 4 6

def loadSetTx : Io ℕ := loadLe .param 28 1
def loadIdx : Io ℕ := loadLe .param 36 1
def loadKeyLen : Io ℕ := loadLe .param 46 2

/-- Where `u.crypt.key` and `u.wpa_ie.data` are. -/
def keyOffset : ℤ := 48

/-- Where `u.bcn_ie.buf` is. -/
def bcnOffset : ℤ := 14

/-- `strcmp` with a name, and whether it answers zero. -/
def strcmpIs (r : IoctlRegion) : ℤ → List UInt8 → Io Bool
  | x, [] => do
    let c ← peek (region r) x
    pure (c == 0)
  | x, a :: rest => do
    let c ← peek (region r) x
    if c = a then strcmpIs r (x + 1) rest else pure false

def algIs (name : String) : Io Bool := strcmpIs .param 12 (name.toList.map fun c => UInt8.ofNat c.toNat)

/-- What both handlers of keys do first: no error, and the name of the algorithm ends. -/
def clearCrypt : Io Unit := do
  store .param 32 [0, 0, 0, 0]
  store .param 27 [0]

def dbg (env : IoctlEnv) (m : Io Unit) : Io Unit := if env.debug then m else pure ()

def checkLinkedAp (env : IoctlEnv) : Bool := env.padapter.checkFwstate (WIFI_ASOC_STATE ||| WIFI_AP_STATE)

def checkAp (env : IoctlEnv) : Bool := env.padapter.checkFwstate WIFI_AP_STATE

end Ioctl

end Rtl8723au

/-! `rtw_hostapd_ioctl` of `os_dep/ioctl_linux.c` with the handlers it calls, as computations over the memory of the
request: what they read of it, what they copy and where to. -/
namespace Rtl8723au
open Mem Security AccessM Regions
set_option autoImplicit false

def RTL871X_HOSTAPD_FLUSH : ℕ := 1
def RTL871X_HOSTAPD_ADD_STA : ℕ := 2
def RTL871X_HOSTAPD_REMOVE_STA : ℕ := 3
def RTL871X_HOSTAPD_GET_INFO_STA : ℕ := 4
def RTL871X_HOSTAPD_GET_WPAIE_STA : ℕ := 5
def RTL871X_SET_ENCRYPTION : ℕ := 6
def RTL871X_HOSTAPD_SET_BEACON : ℕ := 16
def RTL871X_HOSTAPD_SET_WPS_BEACON : ℕ := 17
def RTL871X_HOSTAPD_SET_WPS_PROBE_RESP : ℕ := 18
def RTL871X_HOSTAPD_SET_WPS_ASSOC_RESP : ℕ := 19
def RTL871X_HOSTAPD_SET_HIDDEN_SSID : ℕ := 20
def RTL871X_HOSTAPD_SET_MACADDR_ACL : ℕ := 21
def RTL871X_HOSTAPD_ACL_ADD_STA : ℕ := 22
def RTL871X_HOSTAPD_ACL_REMOVE_STA : ℕ := 23

namespace Ioctl

/-! ## Keys -/

/-- `set_group_key`, from the bytes at `src`. -/
def setGroupKey (env : IoctlEnv) (src : IoctlRegion) (x : ℤ) (alg : ℕ) : Io Unit :=
  if env.cmd then memcpy .setkeyParm 0 src x (groupKeylen alg) else pure ()

/-- `set_pairwise_key`. -/
def setPairwiseKey (env : IoctlEnv) (psta : StaId) : Io Unit :=
  if env.cmd then memcpy .setStakeyParm 0 (.dot118021xUncstKey psta) 0 16 else pure ()

/-- A default key is kept, by way of a buffer, and set; `set_tx` decides about the algorithm only. -/
def keepDefKey (env : IoctlEnv) (idx keyLength : ℕ) : Io ℤ := do
  memcpy (.pwep keyLength) 0 .param keyOffset keyLength
  let _ ← loadSetTx
  memcpy (.dot11DefKey idx) 0 (.pwep keyLength) 0 keyLength
  setGroupKey env (.pwep keyLength) 0 (setWepKeyAlg keyLength)
  pure 0

def setDefKey (env : IoctlEnv) : Io ℤ := do
  let idx ← loadIdx
  let keyLen ← loadKeyLen
  if WEP_KEYS ≤ idx ∨ keyLen = 0 then pure (-EINVAL)
  else if !env.pwep then pure 0
  else keepDefKey env idx (if keyLen ≤ 5 then 5 else 13)

def setGrpKey (env : IoctlEnv) : Io ℤ := do
  let idx ← loadIdx
  let keyLen ← loadKeyLen
  let wep ← algIs "WEP"
  if wep then do
    memcpy (.dot118021XGrpKey idx) 0 .param keyOffset (min keyLen 16)
    setGroupKey env .param keyOffset (if keyLen = 13 then WEP104 else WEP40)
    pure 0
  else do
    let tkip ← algIs "TKIP"
    if tkip then do
      memcpy (.dot118021XGrpKey idx) 0 .param keyOffset (min keyLen 16)
      memcpy (.dot118021XGrptxmickey idx) 0 .param (keyOffset + 16) 8
      memcpy (.dot118021XGrprxmickey idx) 0 .param (keyOffset + 24) 8
      setGroupKey env .param keyOffset TKIP
      pure 0
    else do
      let ccmp ← algIs "CCMP"
      if ccmp then do
        memcpy (.dot118021XGrpKey idx) 0 .param keyOffset (min keyLen 16)
        setGroupKey env .param keyOffset AES
        pure 0
      else do
        setGroupKey env .param keyOffset NO_PRIVACY
        pure 0

def setPairwise (env : IoctlEnv) (psta : StaId) : Io ℤ := do
  let keyLen ← loadKeyLen
  memcpy (.dot118021xUncstKey psta) 0 .param keyOffset (min keyLen 16)
  let wep ← algIs "WEP"
  if wep then do
    setPairwiseKey env psta
    pure 0
  else do
    let tkip ← algIs "TKIP"
    if tkip then do
      memcpy (.dot11tkiptxmickey psta) 0 .param (keyOffset + 16) 8
      memcpy (.dot11tkiprxmickey psta) 0 .param (keyOffset + 24) 8
      setPairwiseKey env psta
      pure 0
    else do
      let _ ← algIs "CCMP"
      setPairwiseKey env psta
      pure 0

def setKeyForAll (env : IoctlEnv) : Io ℤ := do
  let none ← algIs "none"
  if none then pure 0
  else do
    let wep ← algIs "WEP"
    if wep then setDefKey env
    else if checkAp env then do
      let setTx ← loadSetTx
      if setTx = 1 then setGrpKey env else pure 0
    else pure 0

/-- A key for one station, whose index is not looked at. -/
def setKeyFor (env : IoctlEnv) (psta : StaId) : Io ℤ := do
  let _ ← algIs "none"
  let _ ← algIs "WEP"
  if env.padapter.securitypriv.dot11AuthAlgrthm = dot11AuthAlgrthm_8021X ∧ checkAp env then do
    let setTx ← loadSetTx
    if setTx = 1 then setPairwise env psta else setGrpKey env
  else pure 0

/-- `rtw_set_encryption`. -/
def rtwSetEncryption (env : IoctlEnv) (paramLen : ℕ) : Io ℤ := do
  clearCrypt
  let keyLen ← loadKeyLen
  if paramLen ≠ SIZEOF_IEEE_PARAM + keyLen then pure (-EINVAL)
  else do
    let staAddr ← loadStaAddr
    if staAddr = bcAddr then do
      let idx ← loadIdx
      if WEP_KEYS ≤ idx then pure (-EINVAL) else setKeyForAll env
    else
      match rtwGetStainfo env.padapter.stapriv (some staAddr) with
      | none => pure 0
      | some psta => setKeyFor env psta

/-! ## The beacon -/

/-- `rtw_check_beacon_data` as far as the copy; a length below zero becomes a large `IELength`. -/
def rtwCheckBeaconData (env : IoctlEnv) (pbuf : ℤ) (len : ℤ) : Io Bool :=
  if !checkAp env then pure false
  else if (MAX_IE_SZ : ℤ) < len then pure false
  else do
    store .ies 0 (List.replicate MAX_IE_SZ 0)
    memcpy .ies 0 .param pbuf (len % 2 ^ 32).toNat
    pure env.started

/-- The length of the elements: 12 bytes of header, and 2 because the structure is not packed. -/
def bcnLength (len : ℕ) : Io ℤ := do
  length ((len : ℤ) - 12 - 2)
  pure (len - 12 - 2)

/-- `rtw_set_beacon`. -/
def rtwSetBeacon (env : IoctlEnv) (len : ℕ) : Io ℤ :=
  if !checkAp env then pure (-EINVAL)
  else do
    memcpy .maxNumSta 0 .param 12 2
    let bcnLen ← bcnLength len
    let started ← rtwCheckBeaconData env bcnOffset bcnLen
    pure (if started then 0 else -EINVAL)

/-- `rtw_set_wps_beacon`, `rtw_set_wps_probe_resp` and `rtw_set_wps_assoc_resp`, each with a buffer of its own. -/
def rtwSetWpsIe (env : IoctlEnv) (len : ℕ) : Io ℤ :=
  if !checkAp env then pure (-EINVAL)
  else do
    let ieLen ← bcnLength len
    if 0 < ieLen then
      if env.buf then do
        memcpy (.wpsIe ieLen.toNat) 0 .param bcnOffset ieLen.toNat
        pure 0
      else pure (-EINVAL)
    else pure 0

/-- The name is copied to the local array, and from there to the two networks. -/
def copySsid (ssidIe : ℤ) (ssidLen : ℕ) : Io Unit := do
  memcpy .ssid 0 .param (ssidIe + 2) ssidLen
  store .ssid (min ssidLen NDIS_802_11_LENGTH_SSID) [0]
  memcpy .curSsid 0 .ssid 0 ssidLen
  memcpy .extSsid 0 .ssid 0 ssidLen

/-- `rtw_set_hidden_ssid`. -/
def rtwSetHiddenSsid (env : IoctlEnv) (len : ℕ) : Io ℤ :=
  if !checkAp env then pure (-EPERM)
  else do
    let reserved0 ← peek (region .param) 12
    if reserved0 ≠ 0xea then pure (-EINVAL)
    else do
      let _ ← peek (region .param) 13
      let ieLen ← bcnLength len
      let ssidIe ← zoom (region .param) (rtwGetIe bcnOffset _SSID_IE_ ieLen)
      match ssidIe with
      | none => pure 0
      | some (p, ssidLen) =>
        if ssidLen = 0 then pure 0
        else do
          copySsid p ssidLen
          pure 0

/-! ## Stations -/

/-- The entry of the table of the dynamic mechanism that a station gets, which `ODM_CmnInfoPtrArrayHook` is told in 16
bits. -/
def odmIndex (aid : ℕ) : ℕ := (aid + 1) % 2 ^ 16

/-- The capabilities of a station of the high throughput. -/
def copyHtCap (psta : StaId) (flags : ℕ) : Io Unit :=
  if BitVec.ofNat 32 flags &&& WLAN_STA_HT ≠ 0 then memcpy (.htCap psta) 0 .param 36 sizeofHtCap else pure ()

/-- `rtw_add_sta`, with the entry that `update_sta_info_apmode` writes. -/
def rtwAddSta (env : IoctlEnv) : Io ℤ := do
  dbg env do
    let _ ← loadLe .param 12 2
    let _ ← loadStaAddr
  if !checkLinkedAp env then pure (-EINVAL)
  else do
    let staAddr ← loadStaAddr
    if staAddr = bcAddr then pure (-EINVAL)
    else
      match rtwGetStainfo env.padapter.stapriv (some staAddr) with
      | none => pure (-ENOMEM)
      | some psta => do
        let flags ← loadLe .param 16 4
        let aid ← loadLe .param 12 2
        memcpy (.bssrateset psta) 0 .param 20 16
        copyHtCap psta flags
        touch [.byte .odmStaInfo (odmIndex aid)]
        pure 0

/-- A handler that looks for the station of the request; `missing` is answered when there is none. -/
def withStation (env : IoctlEnv) (missing : ℤ) (f : StaId → Io Unit) : Io ℤ := do
  dbg env do
    let _ ← loadStaAddr
  if !checkLinkedAp env then pure (-EINVAL)
  else do
    let staAddr ← loadStaAddr
    if staAddr = bcAddr then pure (-EINVAL)
    else
      match rtwGetStainfo env.padapter.stapriv (some staAddr) with
      | none => pure missing
      | some psta => do
        f psta
        pure 0

/-- `rtw_del_sta`. -/
def rtwDelSta (env : IoctlEnv) : Io ℤ := withStation env 0 fun _ => pure ()

/-- The properties of a station that `sta_set` tells. -/
def staSet (sta : StaInfo) : ℕ :=
  sta.nonerpSet.toNat + 2 * sta.noShortSlotTimeSet.toNat + 4 * sta.noShortPreambleSet.toNat + 8 * sta.noHtGfSet.toNat +
    16 * sta.noHtSet.toNat + 32 * sta.ht20mhzSet.toNat

/-- `rtw_ioctl_get_sta_data`; `struct sta_data` is from byte 10 on, and its counters are put next to each other. -/
def rtwIoctlGetStaData (env : IoctlEnv) : Io ℤ := withStation env (-1) fun psta => do
  let sta := env.padapter.stapriv.staInfo psta
  store .param 10 (leBytes sta.aid 2 ++ leBytes sta.capability.toNat 2 ++ leBytes sta.flags.toNat 4)
  store .param 18 (leBytes (staSet sta) 4)
  store .param 38 (leBytes sta.bssrateset.length 4)
  memcpy .param 22 (.bssrateset psta) 0 sta.bssrateset.length
  memcpy .param 42 (.htCap psta) 0 sizeofHtCap
  memcpy .param 74 (.staStats psta) 0 48

/-- `rtw_get_sta_wpaie`. -/
def rtwGetStaWpaie (env : IoctlEnv) : Io ℤ := withStation env (-1) fun psta => do
  let id ← peek (region (.staWpaIe psta)) 0
  if id = 0x30 ∨ id = 0xdd then do
    let wpaIeLen ← loadLe (.staWpaIe psta) 1 1
    let copyLen := min (wpaIeLen + 2) 32
    store .param 12 (leBytes copyLen 4)
    memcpy .param 16 (.staWpaIe psta) 0 copyLen
  else pure ()

/-- `rtw_ioctl_acl_add_sta` and `rtw_ioctl_acl_remove_sta`. -/
def rtwIoctlAclSta (env : IoctlEnv) : Io ℤ :=
  if !checkAp env then pure (-EINVAL)
  else do
    let staAddr ← loadStaAddr
    pure (if staAddr = bcAddr then -EINVAL else if env.aclDone then 0 else -1)

/-- `rtw_ioctl_set_macaddr_acl`. -/
def rtwIoctlSetMacaddrAcl (env : IoctlEnv) : Io ℤ :=
  if !checkAp env then pure (-EINVAL)
  else do
    let _ ← loadLe .param 12 4
    pure 0

/-! ## The dispatch -/

/-- The `switch` of `rtw_hostapd_ioctl`. -/
def hostapdRequest (env : IoctlEnv) (cmd length : ℕ) : Io ℤ :=
  if cmd = RTL871X_HOSTAPD_FLUSH then pure 0
  else if cmd = RTL871X_HOSTAPD_ADD_STA then rtwAddSta env
  else if cmd = RTL871X_HOSTAPD_REMOVE_STA then rtwDelSta env
  else if cmd = RTL871X_HOSTAPD_SET_BEACON then rtwSetBeacon env length
  else if cmd = RTL871X_SET_ENCRYPTION then rtwSetEncryption env length
  else if cmd = RTL871X_HOSTAPD_GET_WPAIE_STA then rtwGetStaWpaie env
  else if cmd = RTL871X_HOSTAPD_SET_WPS_BEACON ∨ cmd = RTL871X_HOSTAPD_SET_WPS_PROBE_RESP ∨
    cmd = RTL871X_HOSTAPD_SET_WPS_ASSOC_RESP then rtwSetWpsIe env length
  else if cmd = RTL871X_HOSTAPD_SET_HIDDEN_SSID then rtwSetHiddenSsid env length
  else if cmd = RTL871X_HOSTAPD_GET_INFO_STA then rtwIoctlGetStaData env
  else if cmd = RTL871X_HOSTAPD_SET_MACADDR_ACL then rtwIoctlSetMacaddrAcl env
  else if cmd = RTL871X_HOSTAPD_ACL_ADD_STA ∨ cmd = RTL871X_HOSTAPD_ACL_REMOVE_STA then rtwIoctlAclSta env
  else pure (-EOPNOTSUPP)

/-- `rtw_hostapd_ioctl`. -/
def rtwHostapdIoctl (env : IoctlEnv) (length : ℕ) : Io ℤ :=
  if !env.hwInitCompleted then pure (-EPERM)
  else if !env.pointer then pure (-EINVAL)
  else if !env.kmalloc then pure (-ENOMEM)
  else if !env.copied then pure (-EFAULT)
  else do
    let cmd ← loadCmd
    let ret ← hostapdRequest env cmd length
    if ret = 0 then do
      let _ ← load .param 0 length
      pure ret
    else pure ret

end Ioctl

end Rtl8723au
