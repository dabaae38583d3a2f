import Rtl8723au.Library.ElementWalk
import Rtl8723au.Ap.BcnCap
import Rtl8723au.Include.Wifi

/-! `issue_assocreq` of `core/rtw_mlme_ext.c`, with `rtw_set_ie`, `get_rate_set`, `is_ap_in_tkip` and the element
that `build_assoc_req_wfd_ie` of `core/rtw_p2p.c` adds. -/
namespace Rtl8723au
open Mem Security Tlv AccessM
set_option autoImplicit false

def _RSN_IE_2_ : UInt8 := 48
def _EXT_SUPPORTEDRATES_IE_ : UInt8 := 50
def _VENDOR_SPECIFIC_IE_ : UInt8 := 221

def RTW_WPA_OUI : List UInt8 := [0x00, 0x50, 0xf2, 0x01]
def WMM_OUI : List UInt8 := [0x00, 0x50, 0xf2, 0x02]
def WPS_OUI : List UInt8 := [0x00, 0x50, 0xf2, 0x04]
def WPA_TKIP_CIPHER : List UInt8 := [0x00, 0x50, 0xf2, 0x02]
def RSN_TKIP_CIPHER : List UInt8 := [0x00, 0x0f, 0xac, 0x02]
def REALTEK_96B_IE : List UInt8 := [0x00, 0xe0, 0x4c, 0x02, 0x01, 0x20]

def MCS_rate_2R : List UInt8 := [0xff, 0xff, 0, 0, 0x01, 0, 0, 0, 0, 0, 0, 0, 0, 0, 0, 0]
def MCS_rate_1R : List UInt8 := [0xff, 0x00, 0, 0, 0x01, 0, 0, 0, 0, 0, 0, 0, 0, 0, 0, 0]

def IEEE80211_BASIC_RATE_MASK : UInt8 := 0x80
def WLAN_CAPABILITY_PRIVACY : ℕ := 0x10
def WIRELESS_11_24N : ℕ := 8
def WIRELESS_11_5N : ℕ := 16
def RF_1T1R : ℕ := 3
def HT_IOT_PEER_REALTEK : ℕ := 1

/-- The inner structure of `struct HT_caps_element` is not packed: one byte is left out before `HT_ext_caps`, four
before and three behind the rest. -/
def sizeofHTCapsElement : ℕ := 32

/-! ## What the request is built from -/

/-- `mlmext_info.network`. -/
structure JoinedNetwork extends BcnNetwork where
  macAddress : MacAddr
  ssid : Vector UInt8 32
  ssidLength : Fin 33
  supportedRates : Vector UInt8 16

/-- What `struct wifidirect_info` and the Wi-Fi display information give to the last two elements. -/
structure WifidirectInfo where
  p2pState : ℕ := 0
  persistentSupported : Bool := false
  deviceName : Vector UInt8 32 := Vector.replicate 32 0
  deviceNameLen : Fin 33 := 0
  uiGotWpsInfo : ℕ := 0
  deviceAddr : MacAddr := Vector.replicate 6 0
  wfdDeviceType : ℕ := 0
  rtspCtrlport : ℕ := 0
  fwLinked : Bool := false
  assocBssid : MacAddr := Vector.replicate 6 0

/-- The members that the request reads. `staBssrate` and `bssrate` are what the stack holds where the two arrays
are put, and `htCaps` the bytes of `mlmext_info` from `HT_caps` on. -/
structure AssocReqInfo where
  myid : MacAddr
  mgntSeq : ℕ := 0
  network : JoinedNetwork
  curChannel : ℕ := 1
  curWirelessMode : ℕ := 0
  datarate : Vector UInt8 13
  basicrate : Vector UInt8 13
  staBssrate : ℕ → UInt8 := fun _ => 0
  bssrate : Mem := fun _ => 0
  htOption : Bool := false
  cbw40Enable : ℕ := 0
  rxStbc : ℕ := 0
  wifiSpec : Bool := false
  rfType : ℕ := 3
  bt1Ant : Bool := false
  htCaps : Mem := fun _ => 0
  assocAPVendor : ℕ := 0
  wdinfo : WifidirectInfo := {}

/-- What the request writes: the elements of the network, `bssrate`, `HT_caps`, the frame and its length. -/
structure AssocReqMem where
  ies : Mem
  bssrate : Mem
  htCaps : Mem
  pframe : List UInt8 := []
  pktlen : ℕ := 0

inductive AssocReqAddr
  | ies (x : ℤ)
  | bssrate (x : ℤ)
  | htCaps (x : ℤ)

namespace AssocReq

abbrev R := AccessM AssocReqAddr AssocReqMem

def iesPart : AccessM.Part AssocReqAddr AssocReqMem ℤ Mem := ⟨(·.ies), fun m s => { s with ies := m }, .ies⟩
def bssratePart : AccessM.Part AssocReqAddr AssocReqMem ℤ Mem := ⟨(·.bssrate), fun m s => { s with bssrate := m }, .bssrate⟩
def htCapsPart : AccessM.Part AssocReqAddr AssocReqMem ℤ Mem := ⟨(·.htCaps), fun m s => { s with htCaps := m }, .htCaps⟩

def put (l : List UInt8) : R Unit := modify fun s => { s with pframe := s.pframe ++ l, pktlen := s.pktlen + l.length }

/-- `rtw_set_ie`. -/
def rtwSetIe (index : UInt8) (source : List UInt8) : R Unit := modify fun s =>
  { s with
    pframe := s.pframe ++ index :: UInt8.ofNat source.length :: source
    pktlen := s.pktlen + (source.length + 2) }

/-! ## The rates of the station -/

def ratetblVal2wifirate (rate : UInt8) : UInt8 :=
  match (rate &&& 0x7f).toNat with
  | 0 => 0x02
  | 1 => 0x04
  | 2 => 0x0b
  | 3 => 0x16
  | 4 => 0x0c
  | 5 => 0x12
  | 6 => 0x18
  | 7 => 0x24
  | 8 => 0x30
  | 9 => 0x48
  | 10 => 0x60
  | 11 => 0x6c
  | _ => 0

def isBasicrate (basicrate : List UInt8) (rate : UInt8) : Bool :=
  basicrate.any fun val => val != 0xff && val != 0xfe && rate == ratetblVal2wifirate val

def ratetbl2rateset (basicrate : List UInt8) : List UInt8 → List UInt8
  | [] => []
  | rate :: rest =>
    if rate = 0xff then []
    else if rate = 0xfe then ratetbl2rateset basicrate rest
    else
      let rate := ratetblVal2wifirate rate
      (if isBasicrate basicrate rate then rate ||| IEEE80211_BASIC_RATE_MASK else rate) ::
        ratetbl2rateset basicrate rest

def getRateSet (a : AssocReqInfo) : List UInt8 := ratetbl2rateset a.basicrate.toList a.datarate.toList

/-- The entries of `sta_bssrate` that are compared: on channel 14 four, whether they were set or not. -/
def staRates (a : AssocReqInfo) : List UInt8 :=
  let rates := getRateSet a
  let len := if a.curChannel = 14 then 4 else rates.length
  (List.range len).map fun j => rates.getD j (a.staBssrate j)

def supports (rates : List UInt8) (rate : UInt8) : Bool :=
  rates.any fun sta => rate ||| IEEE80211_BASIC_RATE_MASK == sta ||| IEEE80211_BASIC_RATE_MASK

/-- The loop over the rates of the network; it gives the number of those it kept. -/
def joinRates (sta : List UInt8) : List UInt8 → ℕ → R ℕ
  | [], index => pure index
  | rate :: rest, index =>
    if rate = 0 then pure index
    else if supports sta rate then do
      poke bssratePart index rate
      joinRates sta rest (index + 1)
    else joinRates sta rest index

def setRates (bssrateLen : ℕ) : R Unit :=
  if bssrateLen > 8 then do
    rtwSetIe _SUPPORTEDRATES_IE_ (← peekList bssratePart 0 8)
    rtwSetIe _EXT_SUPPORTEDRATES_IE_ (← peekList bssratePart 8 (bssrateLen - 8))
  else do
    rtwSetIe _SUPPORTEDRATES_IE_ (← peekList bssratePart 0 bssrateLen)

/-! ## RSN and HT -/

def setRsn (ieLength : ℕ) : R Unit := do
  match ← zoom iesPart (rtwGetIe _FIXED_IE_LENGTH_ _RSN_IE_2_ ((ieLength : ℤ) - _FIXED_IE_LENGTH_)) with
  | none => pure ()
  | some (p, len) => rtwSetIe _RSN_IE_2_ (← peekList iesPart (p + 2) len)

/-- The pass of `is_ap_in_tkip` at an element. -/
def tkipAt (id : UInt8) (i : ℤ) : M Bool :=
  if id = _VENDOR_SPECIFIC_IE_ then do
    let oui ← peekList whole (i + 2) 4
    if oui = RTW_WPA_OUI then do
      let cipher ← peekList whole (i + 2 + 12) 4
      pure (decide (cipher = WPA_TKIP_CIPHER))
    else pure false
  else if id = _RSN_IE_2_ then do
    let cipher ← peekList whole (i + 2 + 8) 4
    pure (decide (cipher = RSN_TKIP_CIPHER))
  else pure false

def isApInTkip (ieLength : ℕ) : M Bool := do
  let capability ← Wifi.readLe16 10
  if capability &&& WLAN_CAPABILITY_PRIVACY ≠ 0 then walk whole tkipAt ieLength ieLength _FIXED_IE_LENGTH_
  else pure false

/-- `HT_caps_info` of the request. -/
def htCapsInfo (a : AssocReqInfo) (info : ℕ) : ℕ :=
  let info := if a.cbw40Enable = 0 then info &&& 0xffbd else info ||| 0x0002
  let info := info ||| 0x000c
  if a.rfType = RF_1T1R then if a.rxStbc ≠ 0 then info ||| 0x0100 else info
  else if a.rxStbc = 3 ∨ (a.curWirelessMode &&& WIRELESS_11_24N ≠ 0 ∧ a.rxStbc = 1) ∨
      (a.curWirelessMode &&& WIRELESS_11_5N ≠ 0 ∧ a.rxStbc = 2) ∨ a.wifiSpec then info ||| 0x0200
  else info

/-- `HT_caps` with what the station can do. -/
def updateHtCaps (a : AssocReqInfo) (m : Mem) : Mem :=
  let m := Wifi.onLe16 m 0 (htCapsInfo a)
  let m := putBytes m 3 (if a.rfType = RF_1T1R then MCS_rate_1R else MCS_rate_2R)
  if a.bt1Ant then Function.update m 2 (m 2 &&& 0xfc) else m

def setHtCaps (a : AssocReqInfo) (ieLength : ℕ) : R Unit :=
  if a.htOption then do
    match ← zoom iesPart (rtwGetIe _FIXED_IE_LENGTH_ _HT_CAPABILITY_IE_ ((ieLength : ℤ) - _FIXED_IE_LENGTH_)) with
    | none => pure ()
    | some (p, len) => do
      if ← zoom iesPart (isApInTkip ieLength) then pure ()
      else do
        let caps ← peekList iesPart (p + 2) sizeofHTCapsElement
        modify fun s => { s with htCaps := updateHtCaps a (putBytes s.htCaps 0 caps) }
        rtwSetIe _HT_CAPABILITY_IE_ (← peekList htCapsPart 0 len)
  else pure ()

/-! ## The vendor specific elements -/

/-- A WPS element is cut, for old access points. -/
def cutWps (wifiSpec : Bool) (oui : List UInt8) (i : ℤ) : R Unit :=
  if !wifiSpec ∧ oui = WPS_OUI then poke iesPart (i + 1) 14 else pure ()

/-- The pass at an element; the comparisons look at the same four bytes. -/
def vendorAt (wifiSpec : Bool) (id : UInt8) (i : ℤ) : R Bool :=
  if id = _VENDOR_SPECIFIC_IE_ then do
    let oui ← peekList iesPart (i + 2) 4
    if oui = RTW_WPA_OUI ∨ oui = WMM_OUI ∨ oui = WPS_OUI then do
      cutWps wifiSpec oui i
      let length ← peek iesPart (i + 1)
      rtwSetIe _VENDOR_SPECIFIC_IE_ (← peekList iesPart (i + 2) length.toNat)
      pure false
    else pure false
  else pure false

/-! ## The elements of Wi-Fi Direct -/

def be16 (v : ℕ) : List UInt8 := [UInt8.ofNat (v / 256), UInt8.ofNat v]
def cpuToLe16 (v : ℕ) : List UInt8 := [UInt8.ofNat v, UInt8.ofNat (v / 256)]

def P2P_STATE_NONE : ℕ := 0
def P2P_STATE_IDLE : ℕ := 1

/-- `p2pie`. -/
def p2pie (a : AssocReqInfo) : List UInt8 :=
  let w := a.wdinfo
  let display := w.uiGotWpsInfo = 1 ∨ w.uiGotWpsInfo = 2
  [0x50, 0x6f, 0x9a, 0x09] ++
  0x02 :: cpuToLe16 0x0002 ++ [0x27, if w.persistentSupported then 0x0a else 0x08] ++
  0x08 :: cpuToLe16 0x0004 ++ [0xff, 0xff, 0xff, 0xff] ++
  0x0d :: cpuToLe16 (21 + w.deviceNameLen.val) ++ a.myid.toList ++ be16 (if display then 0x0008 else 0x0080) ++
    be16 0x0008 ++ [0x00, 0x50, 0xf2, 0x04] ++ be16 0x0005 ++ [0x00] ++
    be16 0x1011 ++ be16 w.deviceNameLen.val ++ w.deviceName.toList.take w.deviceNameLen.val ++
  0x10 :: cpuToLe16 0x000d ++ w.deviceAddr.toList ++ [1] ++ w.deviceAddr.toList

/-- `wfdie`. -/
def wfdie (w : WifidirectInfo) : List UInt8 :=
  [0x50, 0x6f, 0x9a, 0x0a] ++
  0x00 :: be16 0x0006 ++ be16 (w.wfdDeviceType ||| 0x0010 ||| 0x0040) ++ be16 w.rtspCtrlport ++ be16 300 ++
  0x01 :: be16 0x0006 ++ (if w.fwLinked then w.assocBssid.toList else [0, 0, 0, 0, 0, 0]) ++
  0x06 :: be16 0x0007 ++ [0, 0, 0, 0, 0, 0, 0]

def setP2p (a : AssocReqInfo) : R Unit :=
  if a.wdinfo.p2pState ≠ P2P_STATE_NONE ∧ a.wdinfo.p2pState ≠ P2P_STATE_IDLE then do
    rtwSetIe _VENDOR_SPECIFIC_IE_ (p2pie a)
    rtwSetIe _VENDOR_SPECIFIC_IE_ (wfdie a.wdinfo)
  else pure ()

/-! ## The request -/

def wlanhdr (a : AssocReqInfo) : List UInt8 :=
  let m : Mem := fun _ => 0
  let m := putBytes m 4 a.network.macAddress.toList
  let m := putBytes m 10 a.myid.toList
  let m := putBytes m 16 a.network.macAddress.toList
  let m := Wifi.setSeqNum m 0 a.mgntSeq
  bytesAt (Wifi.setFrameSubType m 0 0x00) 0 Wifi.WLAN_HDR_A3_LEN

def setVendor (a : AssocReqInfo) : R Unit := do
  let _ ← walk iesPart (vendorAt a.wifiSpec) a.network.ieLength a.network.ieLength _FIXED_IE_LENGTH_
  pure ()

def setRealtek (a : AssocReqInfo) : R Unit :=
  if a.assocAPVendor = HT_IOT_PEER_REALTEK then rtwSetIe _VENDOR_SPECIFIC_IE_ REALTEK_96B_IE else pure ()

def start (a : AssocReqInfo) : AssocReqMem := { ies := a.network.ies, bssrate := a.bssrate, htCaps := a.htCaps }

/-- The header, the fixed fields and the SSID. -/
def setFixed (a : AssocReqInfo) : R Unit := do
  put (wlanhdr a)
  put (← peekList iesPart 10 2)
  put [3, 0]
  rtwSetIe _SSID_IE_ (a.network.ssid.toList.take a.network.ssidLength.val)

def setElements (a : AssocReqInfo) (bssrateLen : ℕ) : R Unit := do
  setRates bssrateLen
  setRsn a.network.ieLength
  setHtCaps a a.network.ieLength
  setVendor a
  setRealtek a
  setP2p a

/-- `issue_assocreq`, once it has a frame: whether the request is sent. -/
def issueAssocreq (a : AssocReqInfo) : R Bool := do
  setFixed a
  let bssrateLen ← joinRates (staRates a) a.network.supportedRates.toList 0
  if bssrateLen = 0 then pure false
  else do
    setElements a bssrateLen
    pure true

end AssocReq

end Rtl8723au
