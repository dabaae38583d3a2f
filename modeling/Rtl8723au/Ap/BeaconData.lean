import Rtl8723au.Ieee80211.SecurityIe
import Rtl8723au.Library.RegionFrame
import Rtl8723au.Mlme.AssocReq

/-! `rtw_check_beacon_data` of `core/rtw_ap.c` up to `start_bss_network`, with `HT_caps_handler`, `HT_info_handler` and
`ERP_IE_handler` of `core/rtw_wlan_util.c`: the elements of the beacon are copied into the network of the access point, read
and changed in place. -/
namespace Rtl8723au
namespace BeaconData
open AccessM Regions Tlv Security Ieee80211 Mem
set_option autoImplicit false

def _BEACON_IE_OFFSET_ : ℕ := 12

def OUI1 : List UInt8 := [0x00, 0x50, 0xf2, 0x01]
def WMM_PARA_IE : List UInt8 := [0x00, 0x50, 0xf2, 0x02, 0x01, 0x01]

def IEEE80211_HT_AMPDU_PARM_FACTOR : UInt8 := 0x03
def IEEE80211_HT_AMPDU_PARM_DENSITY : UInt8 := 0x1c
def RF_1T2R : ℕ := 0

/-- The buffer that is given, the elements of the network, and where bytes of them are copied to: `Ssid.Ssid`, the local
`supportRate`, `htpriv.ht_cap`, and `ERP_IE`, `HT_caps` and `HT_info` of `mlmext_info`. What the two search loops access in the
elements is told apart as `loops`. -/
inductive Area
  | pbuf | ies | loops | ssid | supportRate | htCap | erpIe | htCaps | htInfo
  deriving DecidableEq

abbrev W := R Area

/-- The elements as the search loops see them. -/
def inLoop : AccessM.Part (Touch Area) (Regions Area) ℤ Mem :=
  ⟨fun s => s .ies, fun m s => Function.update s .ies m, .byte .loops⟩

def behind (p : ℤ) : AccessM.Part ℤ Mem ℤ Mem := ⟨fun m x => m (p + x), fun m _ x => m (x - p), fun x => p + x⟩

/-- What is read beside the buffer, and the length of the SSID before. -/
structure BeaconConf where
  apState : Bool := true
  apMode : Bool := true
  wmmEnable : Bool := false
  htEnable : Bool := false
  ampduEnable : Bool := false
  rfType : ℕ := RF_1T1R
  ssidLength : ℕ := 0

/-- What is left beside the memory. -/
structure BeaconFacts where
  beaconPeriod : ℕ
  privacy : Bool
  ssidLength : ℕ
  dsConfig : UInt8
  wpaPsk : ℕ
  is8021x : Bool
  wpa2GroupCipher : BitVec 32
  wpa2PairwiseCipher : BitVec 32
  wpaGroupCipher : BitVec 32
  wpaPairwiseCipher : BitVec 32
  qosOption : Bool
  htOption : Bool
  ampduEnable : Bool

/-! ## Elements that are found from the start -/

/-- `rtw_get_ie` behind the fixed bytes. -/
def getIe (index : UInt8) (len : ℕ) : W (Option (ℤ × ℕ)) :=
  zoom (region .ies) (rtwGetIe _BEACON_IE_OFFSET_ index ((len : ℤ) - _BEACON_IE_OFFSET_))

def notEmpty (found : Option (ℤ × ℕ)) : Option (ℤ × ℕ) := found.filter fun e => 0 < e.2

/-- The SSID; an empty one leaves the one before. -/
def setSsid (a : BeaconConf) (len : ℕ) : W ℕ := do
  match notEmpty (← getIe _SSID_IE_ len) with
  | none => pure a.ssidLength
  | some (p, ieLen) => do
    store .ssid 0 (List.replicate 32 0)
    memcpy .ssid 0 .ies (p + 2) ieLen
    pure ieLen

def getChannel (len : ℕ) : W UInt8 := do
  match notEmpty (← getIe _DSSET_IE_ len) with
  | none => pure 0
  | some (p, _) => peek (region .ies) (p + 2)

/-- One of the two elements with rates, behind those that are there. -/
def addRates (index : UInt8) (len supportRateNum : ℕ) : W ℕ := do
  match ← getIe index len with
  | none => pure supportRateNum
  | some (p, ieLen) => do
    memcpy .supportRate supportRateNum .ies (p + 2) ieLen
    pure (supportRateNum + ieLen)

def setRates (len : ℕ) : W ℕ := do
  store .supportRate 0 (List.replicate 16 0)
  let supportRateNum ← addRates _SUPPORTEDRATES_IE_ len 0
  addRates _EXT_SUPPORTEDRATES_IE_ len supportRateNum

/-- `ERP_IE_handler` and `HT_info_handler`: an element that is not too long is copied. -/
def copyShort (r : Area) (limit : ℕ) (found : Option (ℤ × ℕ)) : W Unit :=
  match found with
  | none => pure ()
  | some (p, ieLen) => if limit < ieLen then pure () else memcpy r 0 .ies (p + 2) ieLen

def erpIeHandler (found : Option (ℤ × ℕ)) : W Unit := copyShort .erpIe 1 found

def htInfoHandler (found : Option (ℤ × ℕ)) : W Unit := copyShort .htInfo 22 found

/-- What a parser of a security element has written, if it succeeds. -/
def told (r : Bool × Ciphers) : Option Ciphers := if r.1 then some r.2 else none

def parseRsn (len : ℕ) : W (Option Ciphers) := do
  match notEmpty (← getIe _RSN_IE_2_ len) with
  | none => pure none
  | some (p, ieLen) => do
    let r ← zoom (region .ies) (zoom (behind p) (rtwParseWpa2Ie (ieLen + 2 : ℕ) ⟨0, 0, none⟩))
    pure (told r)

/-! ## The two search loops -/

/-- A search for the vendor specific elements from the one at `p`, with `ieLen` as the search before has left it; it ends with
the first one that starts with `oui`, or with an empty one. A pass goes on three bytes at least. -/
def vendorLoop (oui : List UInt8) (len : ℕ) : ℕ → ℤ → ℕ → M (Option (ℤ × ℕ))
  | 0, _, _ => pure none
  | fuel + 1, p, ieLen => do
    match ← rtwGetIe p _VENDOR_SPECIFIC_IE_ ((len : ℤ) - _BEACON_IE_OFFSET_ - (ieLen + 2 : ℕ)) with
    | none => pure none
    | some (p, ieLen) => do
      let bytes ← peekList whole (p + 2) oui.length
      if bytes = oui then pure (some (p, ieLen))
      else if ieLen = 0 then pure none
      else vendorLoop oui len fuel (p + (ieLen + 2 : ℕ)) ieLen

/-- The search for the WPA element, and its ciphers. -/
def searchWpa (len : ℕ) : M (Option Ciphers) := do
  match ← vendorLoop OUI1 len len _BEACON_IE_OFFSET_ 0 with
  | none => pure none
  | some (p, ieLen) => do
    let r ← zoom (behind p) (rtwParseWpaIe (ieLen + 2 : ℕ) ⟨0, 0, none⟩)
    pure (told r)

def alter (x : ℤ) (f : UInt8 → UInt8) : M Unit := do
  let v ← read x
  write x (f v)

/-- U-APSD is told, and admission control is not. -/
def setWmm (p : ℤ) : M Unit := do
  alter (p + 8) (· ||| 0x80)
  alter (p + 10) (· &&& 0xef)
  alter (p + 14) (· &&& 0xef)
  alter (p + 18) (· &&& 0xef)
  alter (p + 22) (· &&& 0xef)

/-- The search for the WMM element, which it changes. -/
def searchWmm (len : ℕ) : M Bool := do
  match ← vendorLoop WMM_PARA_IE len len _BEACON_IE_OFFSET_ 0 with
  | none => pure false
  | some (p, _) => do
    setWmm p
    pure true

/-! ## The elements for HT -/

/-- The capabilities that are not supported are taken out. -/
def editHtCap (rfType : ℕ) (ccmp : Bool) (p : ℤ) : M Unit := do
  alter (p + 4) (· ||| if ccmp then IEEE80211_HT_AMPDU_PARM_DENSITY else 0)
  alter (p + 4) (· ||| IEEE80211_HT_AMPDU_PARM_FACTOR)
  if rfType = RF_1T1R then do
    write (p + 5) 0xff
    write (p + 6) 0
  else pure ()

def setHtCap (a : BeaconConf) (ccmp : Bool) (len : ℕ) : W (Option (ℤ × ℕ)) := do
  match notEmpty (← getIe _HT_CAPABILITY_IE_ len) with
  | none => pure none
  | some (p, ieLen) => do
    zoom (region .ies) (editHtCap a.rfType ccmp p)
    memcpy .htCap 0 .ies (p + 2) ieLen
    pure (some (p, ieLen))

/-- `AMPDU_para`: the shorter length and the longer spacing. -/
def ampduPara (para data : UInt8) : UInt8 :=
  (if data &&& 0x3 < para &&& 0x3 then data &&& 0x3 else para &&& 0x3) |||
    (if data &&& 0x1c < para &&& 0x1c then para &&& 0x1c else data &&& 0x1c)

/-- A byte of `HT_caps`. -/
def meetHtCap (p : ℤ) (i : ℕ) : W Unit := do
  let v ← peek (region .htCaps) i
  let data ← peek (region .ies) (p + 2 + i)
  poke (region .htCaps) i (if i = 2 then ampduPara v data else v &&& data)

def meetMcsRate (rfType : ℕ) (i : ℕ) : W Unit := do
  let v ← peek (region .htCaps) (3 + i : ℕ)
  poke (region .htCaps) (3 + i : ℕ)
    (v &&& if rfType = RF_1T1R ∨ rfType = RF_1T2R then MCS_rate_1R.getD i 0 else MCS_rate_2R.getD i 0)

/-- `HT_caps_handler`. -/
def htCapsHandler (rfType : ℕ) (p : ℤ) (ieLen : ℕ) : W Unit := do
  loop (meetHtCap p) ieLen
  loop (meetMcsRate rfType) 16

/-- HT is used when it is enabled and the beacon has capabilities. -/
def useHt (a : BeaconConf) (htCap htInfo : Option (ℤ × ℕ)) : W Bool :=
  match htCap with
  | none => pure false
  | some (p, ieLen) =>
    if a.htEnable then do
      htCapsHandler a.rfType p ieLen
      htInfoHandler htInfo
      pure true
    else pure false

/-! ## `rtw_check_beacon_data` -/

def pairwiseCipher (c : Option Ciphers) : BitVec 32 := c.elim 0 (·.pairwiseCipher)
def groupCipher (c : Option Ciphers) : BitVec 32 := c.elim 0 (·.groupCipher)

def isCcmp (wpa wpa2 : Option Ciphers) : Bool :=
  pairwiseCipher wpa &&& WPA_CIPHER_CCMP != 0 || pairwiseCipher wpa2 &&& WPA_CIPHER_CCMP != 0

def wmmOption (a : BeaconConf) (len : ℕ) : W Bool := if a.wmmEnable then zoom inLoop (searchWmm len) else pure false

def readBeacon (a : BeaconConf) (len : ℕ) : W BeaconFacts := do
  let beaconPeriod ← loadLe .ies 8 2
  let cap ← loadLe .ies 0 2
  let ssidLength ← setSsid a len
  let dsConfig ← getChannel len
  let _ ← setRates len
  let erp ← getIe _ERPINFO_IE_ len
  erpIeHandler (notEmpty erp)
  let wpa2 ← parseRsn len
  let wpa ← zoom inLoop (searchWpa len)
  let wmm ← wmmOption a len
  let htCap ← setHtCap a (isCcmp wpa wpa2) len
  let htInfo ← getIe _HT_ADD_INFO_IE_ len
  let htOption ← useHt a htCap (notEmpty htInfo)
  pure {
    beaconPeriod := beaconPeriod
    privacy := cap.testBit 4
    ssidLength := ssidLength
    dsConfig := dsConfig
    wpaPsk := (if wpa2.isSome then 2 else 0) + if wpa.isSome then 1 else 0
    is8021x := wpa2.isSome || wpa.isSome
    wpa2GroupCipher := groupCipher wpa2
    wpa2PairwiseCipher := pairwiseCipher wpa2
    wpaGroupCipher := groupCipher wpa
    wpaPairwiseCipher := pairwiseCipher wpa
    qosOption := wmm || htOption
    htOption := htOption
    ampduEnable := htOption && a.ampduEnable
  }

/-- `rtw_check_beacon_data`, up to the start of the network. -/
def rtwCheckBeaconData (a : BeaconConf) (len : ℕ) : W (Option BeaconFacts) :=
  if !a.apState then pure none
  else if MAX_IE_SZ < len then pure none
  else do
    store .ies 0 (List.replicate MAX_IE_SZ 0)
    memcpy .ies 0 .pbuf 0 len
    if !a.apMode then pure none
    else some <$> readBeacon a len

/-! ## What should hold -/

def destination : Area → Option ℕ
  | .ssid => some 32
  | .supportRate => some 16
  | .htCap => some 26
  | .erpIe => some 1
  | .htCaps => some 26
  | .htInfo => some 22
  | _ => none

/-- The destinations are kept to, and the search loops to the elements. -/
def Keeps (len : ℕ) : Touch Area → Prop
  | .byte .loops x => 0 ≤ x ∧ x < len
  | .byte r x => ∀ n, destination r = some n → 0 ≤ x ∧ x < n
  | .length _ => True

/-- The ciphers that what is behind the header of a security element tells: none, when it has not one of the forms. -/
structure Tells (suites : Suites) (rest : List UInt8) (group pairwise : BitVec 32) : Prop where
  listed : ∀ g ps more, SuiteList rest g ps more →
    group = suites.cipher g ∧ pairwise = (ps.map suites.cipher).foldr (· ||| ·) 0
  groupOnly : ∀ g : Selector, rest = g.toList → group = suites.cipher g ∧ pairwise = 0
  nothing : rest = [] ∨ ¬Grammar rest → group = 0 ∧ pairwise = 0

def isWpa (e : Tlv) : Bool := e.id == _VENDOR_SPECIFIC_IE_ && e.body.take 4 == OUI1
def isWmm (e : Tlv) : Bool := e.id == _VENDOR_SPECIFIC_IE_ && e.body.take 4 == WMM_OUI
def isWmmParameter (e : Tlv) : Bool := e.id == _VENDOR_SPECIFIC_IE_ && e.body.take 6 == WMM_PARA_IE
def isHtCap (e : Tlv) : Bool := e.id == _HT_CAPABILITY_IE_

/-- The byte is one of an element of WMM or HT capabilities. -/
def InEdited (es : List Tlv) (x : ℕ) : Prop :=
  ∃ pre e post, es = pre ++ e :: post ∧ (isWmm e || isHtCap e) = true ∧
    12 + (encodeAll pre).length ≤ x ∧ x < 12 + (encodeAll pre).length + e.size

def firstIe (es : List Tlv) (index : UInt8) : Option Tlv := es.find? (·.id == index)

/-- An SSID and rates of legal length. -/
structure Legal (es : List Tlv) : Prop where
  ssid : ∀ e, firstIe es _SSID_IE_ = some e → e.body.length ≤ 32
  rates : (firstIe es _SUPPORTEDRATES_IE_).elim 0 (·.body.length) +
    (firstIe es _EXT_SUPPORTEDRATES_IE_).elim 0 (·.body.length) ≤ 16

/-- What is told is what the beacon tells, and the beacon is kept. -/
structure Follows (a : BeaconConf) (fixed : List UInt8) (es : List Tlv) (m : Mem) (r : BeaconFacts) (t : Regions Area) : Prop where
  privacy : r.privacy = (fixed.getD 10 0).toNat.testBit 4
  ssid : ∀ e, firstIe es _SSID_IE_ = some e → bytesAt (t .ssid) 0 r.ssidLength = e.body
  channel : ∀ e c rest, firstIe es _DSSET_IE_ = some e → e.body = c :: rest → r.dsConfig = c
  rsn : Tells rsnSuites ((firstIe es _RSN_IE_2_).elim [] (·.body.drop 2)) r.wpa2GroupCipher r.wpa2PairwiseCipher
  wpa : Tells wpaSuites ((es.find? isWpa).elim [] (·.body.drop 6)) r.wpaGroupCipher r.wpaPairwiseCipher
  qos : r.qosOption = ((a.wmmEnable && es.any isWmmParameter) || (a.htEnable && es.any isHtCap))
  kept : ∀ x : ℕ, x < 12 + (encodeAll es).length → ¬InEdited es x → t .ies x = m x

/-- A beacon of `len` bytes is installed: nothing is copied behind its destination or read behind the elements, and of a list
of elements the network is told what it is. -/
structure Installs (a : BeaconConf) (len : ℕ) (s : Regions Area) : Prop where
  inside : Inside (Keeps len) (rtwCheckBeaconData a len) s
  follows : ∀ fixed es, fixed.length = 12 → bytesAt (s .pbuf) 0 len = fixed ++ encodeAll es → Legal es →
    ∃ r, ((rtwCheckBeaconData a len).run s).val = some r ∧
      Follows a fixed es (s .pbuf) r ((rtwCheckBeaconData a len).run s).st

end BeaconData

end Rtl8723au
