import Rtl8723au.Include.RecvFrame
import Rtl8723au.Security.Aes

/-! What the receive path reads of `struct rtw_adapter`: the keys of `include/rtw_security.h`,
the stations of `include/sta_info.h` with the lookup of `core/rtw_sta_mgt.c`, and the link state. -/
namespace Rtl8723au
open Security
set_option autoImplicit false

/-! ## Keys -/

def NO_PRIVACY : ℕ := 0x0
def WEP40 : ℕ := 0x1
def TKIP : ℕ := 0x2
def AES : ℕ := 0x4
def WEP104 : ℕ := 0x5
def SMS4 : ℕ := 0x06

def dot11AuthAlgrthm_8021X : ℕ := 2

-- the literals of a key length and of the length of an SSID
instance neZero_keylen : NeZero 14 := ⟨by decide⟩
instance neZero_ssidLength : NeZero 33 := ⟨by decide⟩

/-- `struct security_priv`. A WEP key has at most thirteen bytes. -/
structure SecurityPriv where
  dot11AuthAlgrthm : ℕ := 0
  dot11PrivacyAlgrthm : ℕ := 0
  dot11PrivacyKeyIndex : ℕ := 0
  dot11DefKey : Vector Skey 4 := Vector.replicate 4 (Vector.replicate 16 0)
  dot11DefKeylen : Vector (Fin 14) 4 := Vector.replicate 4 0
  dot118021XGrpPrivacy : ℕ := 0
  dot118021XGrpKeyid : ℕ := 0
  dot118021XGrpKey : Vector Skey 4 := Vector.replicate 4 (Vector.replicate 16 0)
  dot118021XGrprxmickey : Vector Skey 4 := Vector.replicate 4 (Vector.replicate 16 0)
  binstallGrpkey : Bool := false
  busetkipkey : Bool := false
  bcheckGrpkey : Bool := false
  swDecrypt : Bool := false
  hwDecrypted : Bool := false
  wpaPsk : ℕ := 0
  wpaGroupCipher : ℕ := 0
  wpa2GroupCipher : ℕ := 0
  wpaPairwiseCipher : ℕ := 0
  wpa2PairwiseCipher : ℕ := 0
  dot118021XGrptxmickey : Vector Skey 4 := Vector.replicate 4 (Vector.replicate 16 0)
  swEncrypt : Bool := false

/-! ## Stations -/

/-- `struct sta_info`; `ieee8021x_blocked` is only tested for zero, `sleepqLen` counts the frames of
`sleep_q`, the bits of `state` are those of `rtw_mlme.h` and `rtw_mlme_ext.h`, and `dot11txpn` is the
value of its union. -/
structure StaInfo where
  hwaddr : MacAddr := Vector.replicate 6 0
  ieee8021xBlocked : Bool := false
  dot118021XPrivacy : ℕ := 0
  dot11tkiprxmickey : Skey := Vector.replicate 16 0
  dot118021xUncstKey : Skey := Vector.replicate 16 0
  tidRxseq : Tid → ℕ := fun _ => 0
  sleepqLen : ℕ := 0
  state : BitVec 32 := 0
  aid : ℕ := 0
  macId : ℕ := 0
  qosOption : ℕ := 0
  bssrateset : List UInt8 := []
  htOption : Bool := false
  htCapInfo : UInt16 := 0
  expireTo : ℕ := 0
  authSeq : ℕ := 0
  authalg : ℕ := 0
  chgTxt : Vector UInt8 128 := Vector.replicate 128 0
  capability : UInt16 := 0
  flags : BitVec 32 := 0
  dot8021xalg : ℕ := 0
  wpaPsk : ℕ := 0
  wpaGroupCipher : ℕ := 0
  wpa2GroupCipher : ℕ := 0
  wpaPairwiseCipher : ℕ := 0
  wpa2PairwiseCipher : ℕ := 0
  bpairwiseKeyInstalled : Bool := false
  nonerpSet : Bool := false
  noShortSlotTimeSet : Bool := false
  noShortPreambleSet : Bool := false
  noHtGfSet : Bool := false
  noHtSet : Bool := false
  ht20mhzSet : Bool := false
  keepAliveTrycnt : UInt8 := 0
  txseqTid : Tid → ℕ := fun _ => 0
  dot11txpn : UInt64 := 0
  dot11tkiptxmickey : Skey := Vector.replicate 16 0

def NUM_STA : ℕ := 32

/-- A node of `struct wlan_acl_pool`. -/
structure WlanAclNode where
  addr : MacAddr
  valid : Bool

/-- `struct sta_priv`: the stations, the lists of those that hash alike, and the lists of the access
point. An intrusive list is the list of the stations linked into it. -/
structure StaPriv where
  staInfo : StaId → StaInfo := fun _ => {}
  staHash : Fin 32 → List StaId := fun _ => []
  freeStaQueue : List StaId := []
  asocStaCount : ℤ := 0
  asocList : List StaId := []
  authList : List StaId := []
  asocListCnt : UInt8 := 0
  authListCnt : UInt8 := 0
  authTo : ℕ := 0
  assocTo : ℕ := 0
  expireTo : ℕ := 0
  staAid : Fin 32 → Option StaId := fun _ => none
  staDzBitmap : BitVec 16 := 0
  maxNumSta : ℕ := 0
  aclMode : ℕ := 0
  aclNodeQ : List WlanAclNode := []

def isMulticastEtherAddr (addr : MacAddr) : Bool := addr.get 0 &&& 1 != 0

def bcAddr : MacAddr := Vector.replicate 6 0xff

def wifiMacHash (mac : MacAddr) : Fin 32 :=
  let x := (mac.get 0).toNat
  let x := (x <<< 2) ^^^ (mac.get 1).toNat
  let x := (x <<< 2) ^^^ (mac.get 2).toNat
  let x := (x <<< 2) ^^^ (mac.get 3).toNat
  let x := (x <<< 2) ^^^ (mac.get 4).toNat
  let x := (x <<< 2) ^^^ (mac.get 5).toNat
  let x := x ^^^ (x >>> 8)
  Fin.ofNat 32 (x &&& (NUM_STA - 1))

/-- `rtw_get_stainfo`; a null address finds nothing. -/
def rtwGetStainfo (pstapriv : StaPriv) (hwaddr : Option MacAddr) : Option StaId :=
  match hwaddr with
  | none => none
  | some hwaddr =>
    let addr := if isMulticastEtherAddr hwaddr then bcAddr else hwaddr
    (pstapriv.staHash (wifiMacHash addr)).find? fun psta => (pstapriv.staInfo psta).hwaddr == addr

def rtwGetBcmcStainfo (pstapriv : StaPriv) : Option StaId := rtwGetStainfo pstapriv (some bcAddr)

theorem rtwGetStainfo_hwaddr (pstapriv : StaPriv) (hwaddr : MacAddr) (psta : StaId)
    (hu : isMulticastEtherAddr hwaddr = false) (h : rtwGetStainfo pstapriv (some hwaddr) = some psta) :
    (pstapriv.staInfo psta).hwaddr = hwaddr := by
  unfold rtwGetStainfo at h
  simp only [hu, Bool.false_eq_true, if_false] at h
  have hfound := List.find?_some h
  simpa using hfound

/-! ## The adapter -/

def WIFI_ASOC_STATE : ℕ := 0x00000001
def WIFI_STATION_STATE : ℕ := 0x00000008
def WIFI_AP_STATE : ℕ := 0x00000010
def WIFI_ADHOC_STATE : ℕ := 0x00000020
def WIFI_ADHOC_MASTER_STATE : ℕ := 0x00000040
def WIFI_UNDER_LINKING : ℕ := 0x00000080
def WIFI_MP_STATE : ℕ := 0x00010000

/-- `struct mlme_priv`: the capabilities of the cell and how many stations lack each.
`wpsSelectedRegistrar` is the attribute of `wps_beacon_ie` when there is one. -/
structure MlmePriv where
  qosOption : ℕ := 0
  htOption : Bool := false
  wpsSelectedRegistrar : Option Bool := none
  numStaNoShortPreamble : ℤ := 0
  numStaNonErp : ℤ := 0
  numStaNoShortSlotTime : ℤ := 0
  numStaNoHt : ℤ := 0
  numStaHtNoGf : ℤ := 0
  numStaHt20mhz : ℤ := 0
  acmMask : ℕ := 0

/-- `struct rtw_adapter`, with the members of its `mlmepriv`, `mlmeextpriv`, `registrypriv`, `wdinfo`,
`eeprompriv`, `xmitpriv` and `dvobj` that are read. -/
structure RtwAdapter where
  securitypriv : SecurityPriv := {}
  stapriv : StaPriv := {}
  fwState : ℕ := 0
  bssid : MacAddr := Vector.replicate 6 0
  macAddr : MacAddr := Vector.replicate 6 0
  bDumpRxPkt : ℕ := 0
  bDriverStopped : Bool := false
  bSurpriseRemoved : Bool := false
  mlmepriv : MlmePriv := {}
  mlmeinfoState : ℕ := 0
  curSsid : List UInt8 := []
  activeKeepAliveCheck : Bool := true
  wifiSpec : ℕ := 0
  p2pRoleGo : Bool := false
  fragLen : ℕ := 2346
  ishighspeed : Bool := true

namespace RtwAdapter

def checkFwstate (adapter : RtwAdapter) (state : ℕ) : Bool := adapter.fwState &&& state != 0

end RtwAdapter

/-! ## The cipher of a frame -/

/-- `GET_ENCRY_ALGO`; an authentication algorithm outside the list leaves `encry_algo` as it was. -/
def getEncryAlgo (psecuritypriv : SecurityPriv) (psta : StaInfo) (encryAlgo : ℕ) (bmcst : Bool) : ℕ :=
  match psecuritypriv.dot11AuthAlgrthm with
  | 0 | 1 | 3 => psecuritypriv.dot11PrivacyAlgrthm % 256
  | 2 => if bmcst then psecuritypriv.dot118021XGrpPrivacy % 256 else psta.dot118021XPrivacy % 256
  | _ => encryAlgo

/-- `SET_ICE_IV_LEN`: the lengths of the IV and the ICV. -/
def setIceIvLen (encrypt : ℕ) : ℕ × ℕ :=
  match encrypt with
  | 0x1 | 0x5 => (4, 4)
  | 0x2 => (8, 4)
  | 0x4 => (8, 8)
  | 0x06 => (18, 16)
  | _ => (0, 0)

end Rtl8723au
