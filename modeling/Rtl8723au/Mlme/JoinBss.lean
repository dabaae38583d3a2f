import Rtl8723au.Library.RegionFrame
import Rtl8723au.Mlme.AssocReq

/-! The elements that `rtw_joinbss_cmd` of `core/rtw_cmd.c` puts into `sec_bss` for the network to be joined, with
`rtw_restruct_sec_ie`, `rtw_restruct_wmm_ie` and `rtw_restructure_ht_ie` of `core/rtw_mlme.c` and `check_assoc_AP` of
`core/rtw_wlan_util.c`. -/
namespace Rtl8723au
namespace JoinBss
open AccessM Regions Tlv Security
set_option autoImplicit false

def _WPA_IE_ID_ : UInt8 := 0xdd
def _WPA2_IE_ID_ : UInt8 := 0x30

def Ndis802_11AuthModeWPA : ℕ := 3
def Ndis802_11AuthModeWPAPSK : ℕ := 4
def Ndis802_11AuthModeWPA2 : ℕ := 6
def Ndis802_11AuthModeWPA2PSK : ℕ := 7

def _WEP40_ : ℕ := 1
def _TKIP_ : ℕ := 2
def _AES_ : ℕ := 4
def _WEP104_ : ℕ := 5

def sizeofHtAddtInfo : ℕ := 22

/-! ## What the elements are built from -/

structure PmkidEntry where
  bUsed : Bool := false
  bssid : MacAddr := Vector.replicate 6 0
  pmkid : Vector UInt8 16 := Vector.replicate 16 0

/-- What is read beside the record. `authmode` is what the stack holds where the local variable of that name is put. -/
structure JoinBssInfo where
  ndisauthtype : ℕ := 0
  underWps : Bool := false
  supplicantIe : Tlv
  wpsIe : Tlv
  pmkidList : List PmkidEntry := []
  assocBssid : MacAddr := Vector.replicate 6 0
  dot11PrivacyAlgrthm : ℕ := 0
  wmmEnable : Bool := false
  htEnable : Bool := false
  maxRxAmpduFactor : ℕ := 3
  authmode : UInt8 := 0

/-- The elements of the record, which are only read, and those of `sec_bss`. -/
inductive JoinRegion
  | ies
  | out
  deriving DecidableEq

/-- The sizes of the two arrays, of the first one as it is given. -/
def size (iesSize : ℕ) : JoinRegion → ℕ
  | .ies => iesSize
  | .out => MAX_IE_SZ

abbrev W := R JoinRegion

/-- `rtw_set_ie` behind `outLen` bytes. -/
def rtwSetIe (index : UInt8) (source : List UInt8) (outLen : ℕ) : W ℕ := do
  store .out outLen [index, UInt8.ofNat source.length]
  store .out (outLen + 2 : ℕ) source
  pure (outLen + (source.length + 2))

/-! ## `rtw_restruct_sec_ie` -/

namespace JoinBssInfo

/-- The local `authmode` behind its two tests. -/
def authmodeOf (a : JoinBssInfo) : UInt8 :=
  if a.ndisauthtype = Ndis802_11AuthModeWPA2 ∨ a.ndisauthtype = Ndis802_11AuthModeWPA2PSK then _WPA2_IE_ID_
  else if a.ndisauthtype = Ndis802_11AuthModeWPA ∨ a.ndisauthtype = Ndis802_11AuthModeWPAPSK then _WPA_IE_ID_
  else a.authmode

/-- `SecIsInPMKIDList`, with the entry for its index. -/
def secIsInPMKIDList (a : JoinBssInfo) : Option PmkidEntry := a.pmkidList.find? fun e => e.bUsed && e.bssid == a.assocBssid

end JoinBssInfo

/-- `rtw_append_pmkid`, whatever element stands first. -/
def rtwAppendPmkid (entry : PmkidEntry) (ieLen : ℕ) : W ℕ := do
  let len ← peek (region .out) 13
  if len ≤ 20 then do
    store .out ieLen [1]
    store .out (ieLen + 1 : ℕ) [0]
    store .out (ieLen + 2 : ℕ) entry.pmkid.toList
    let len ← peek (region .out) 13
    store .out 13 [len + 18]
    pure (ieLen + 18)
  else pure ieLen

/-- The element that stands behind the fixed bytes. -/
def secElement (a : JoinBssInfo) : W ℕ :=
  if a.underWps then do
    store .out 12 a.wpsIe.encode
    pure (12 + a.wpsIe.size)
  else if a.authmodeOf = _WPA_IE_ID_ ∨ a.authmodeOf = _WPA2_IE_ID_ then do
    store .out 12 a.supplicantIe.encode
    pure (12 + a.supplicantIe.size)
  else pure 12

/-- `rtw_restruct_sec_ie`. -/
def rtwRestructSecIe (a : JoinBssInfo) : W ℕ := do
  memcpy .out 0 .ies 0 12
  let ielength ← secElement a
  match a.secIsInPMKIDList with
  | none => pure ielength
  | some entry => if a.authmodeOf = _WPA2_IE_ID_ then rtwAppendPmkid entry ielength else pure ielength

/-! ## `rtw_restruct_wmm_ie` -/

/-- A comparison byte by byte that ends where the bytes differ. -/
def matchesAt (x : ℤ) : List UInt8 → W Bool
  | [] => pure true
  | b :: rest => do
    let v ← peek (region .ies) x
    if v = b then matchesAt (x + 1) rest else pure false

/-- The test of an element; the length is compared last. -/
def wmmAt (inLen i : ℕ) : W Bool := do
  let id ← peek (region .ies) i
  if id = _VENDOR_SPECIFIC_IE_ then do
    let same ← matchesAt (i + 2) WMM_OUI
    pure (same && decide (i + 5 < inLen))
  else pure false

/-- Nine bytes of the element, as an information element. -/
def copyWmm (i initialOutLen : ℕ) : W Unit := do
  memcpy .out initialOutLen .ies i 9
  store .out (initialOutLen + 1 : ℕ) [7]
  store .out (initialOutLen + 6 : ℕ) [0]
  store .out (initialOutLen + 8 : ℕ) [0]

/-- The loop of `rtw_restruct_wmm_ie` with the `ielength` that it has come to; no pass goes on less than two bytes. -/
def wmmLoop (inLen initialOutLen : ℕ) : ℕ → ℕ → ℕ → W ℕ
  | 0, _, ielength => pure ielength
  | fuel + 1, i, ielength =>
    if i < inLen then do
      let found ← wmmAt inLen i
      if found then do
        copyWmm i initialOutLen
        pure (initialOutLen + 9)
      else do
        let len ← peek (region .ies) (i + 1 : ℕ)
        wmmLoop inLen initialOutLen fuel (i + (len.toNat + 2)) initialOutLen
    else pure ielength

/-- `rtw_restruct_wmm_ie`, whose `ielength` is set in the loop only. -/
def rtwRestructWmmIe (inLen initialOutLen : ℕ) : W ℕ := wmmLoop inLen initialOutLen inLen _FIXED_IE_LENGTH_ 0

/-! ## `rtw_restructure_ht_ie` -/

/-- `struct ieee80211_ht_cap`. -/
def htCapie (a : JoinBssInfo) : List UInt8 :=
  0xe2 :: 0x10 :: UInt8.ofNat (a.maxRxAmpduFactor &&& 0x03 ||| if a.dot11PrivacyAlgrthm = _AES_ then 0x1c else 0) ::
    List.replicate 23 0

/-- The WMM element that is put in for HT, when there is none. -/
def setHtWmm (qosOption : Bool) (outLen : ℕ) : W ℕ :=
  if qosOption then pure outLen else rtwSetIe _VENDOR_SPECIFIC_IE_ (WMM_OUI ++ [0, 1, 0]) outLen

/-- `HT_ADD_INFO`, if the network has one of the right size. -/
def setHtInfo (inLen outLen : ℕ) : W ℕ := do
  match ← zoom (region .ies) (rtwGetIe _FIXED_IE_LENGTH_ _HT_ADD_INFO_IE_ ((inLen : ℤ) - _FIXED_IE_LENGTH_)) with
  | none => pure outLen
  | some (p, ielen) =>
    if ielen = sizeofHtAddtInfo then do
      let info ← load .ies (p + 2) ielen
      rtwSetIe _HT_ADD_INFO_IE_ info outLen
    else pure outLen

/-- `rtw_restructure_ht_ie`: the new length, and whether HT is used. -/
def rtwRestructureHtIe (a : JoinBssInfo) (inLen : ℕ) (qosOption : Bool) (outLen : ℕ) : W (ℕ × Bool) := do
  match ← zoom (region .ies) (rtwGetIe _FIXED_IE_LENGTH_ _HT_CAPABILITY_IE_ ((inLen : ℤ) - _FIXED_IE_LENGTH_)) with
  | none => pure (outLen, false)
  | some (_, ielen) =>
    if 0 < ielen then do
      let outLen ← setHtWmm qosOption outLen
      let outLen ← rtwSetIe _HT_CAPABILITY_IE_ (htCapie a) outLen
      let outLen ← setHtInfo inLen outLen
      pure (outLen, true)
    else pure (outLen, false)

/-! ## `check_assoc_AP` -/

inductive HtIotPeer
  | unknown | realtek | broadcom | ralink | atheros | cisco | marvell | airgo | tenda
  deriving DecidableEq

/-- What the three bytes behind an element's header are taken for. -/
inductive ApOui
  | answer (peer : HtIotPeer)
  | ralink
  | epigram
  | other
  deriving DecidableEq

def apOui (oui : List UInt8) : ApOui :=
  if oui = [0x00, 0x03, 0x7f] ∨ oui = [0x00, 0x13, 0x74] then .answer .atheros
  else if oui = [0x00, 0x10, 0x18] ∨ oui = [0x00, 0x0a, 0xf7] then .answer .broadcom
  else if oui = [0x00, 0x50, 0x43] then .answer .marvell
  else if oui = [0x00, 0x0c, 0x43] then .ralink
  else if oui = [0x00, 0x40, 0x96] then .answer .cisco
  else if oui = [0x00, 0xe0, 0x4c] then .answer .realtek
  else if oui = [0x00, 0x0a, 0xf5] then .answer .airgo
  else if oui = [0x00, 0x90, 0x4c] then .epigram
  else .other

/-- `epigram_vendor_flag` and `ralink_vendor_flag`. -/
structure VendorFlags where
  epigram : Bool := false
  ralink : Bool := false

/-- A vendor specific element: the answer, or the flags to go on with. -/
def VendorFlags.look (flags : VendorFlags) : ApOui → HtIotPeer ⊕ VendorFlags
  | .answer peer => .inl peer
  | .ralink => if flags.ralink then .inl .ralink else .inr { flags with ralink := true }
  | .epigram => if flags.ralink then .inl .tenda else .inr { flags with epigram := true }
  | .other => .inr flags

/-- The answer when no element has given one. -/
def VendorFlags.result (flags : VendorFlags) : HtIotPeer :=
  if flags.ralink then if flags.epigram then .tenda else .ralink else .unknown

/-- The `switch` of the loop. -/
def apAt (flags : VendorFlags) (i : ℕ) : W (HtIotPeer ⊕ VendorFlags) := do
  let id ← peek (region .ies) i
  if id = _VENDOR_SPECIFIC_IE_ then do
    let oui ← load .ies (i + 2 : ℕ) 3
    pure (flags.look (apOui oui))
  else pure (.inr flags)

def apLoop (len : ℕ) : ℕ → ℕ → VendorFlags → W HtIotPeer
  | 0, _, flags => pure flags.result
  | fuel + 1, i, flags =>
    if i < len then do
      match ← apAt flags i with
      | .inl peer => pure peer
      | .inr flags =>
        let length ← peek (region .ies) (i + 1 : ℕ)
        apLoop len fuel (i + (length.toNat + 2)) flags
    else pure flags.result

/-- `check_assoc_AP`. -/
def checkAssocAP (len : ℕ) : W HtIotPeer := apLoop len len _FIXED_IE_LENGTH_ {}

/-! ## `rtw_joinbss_cmd` -/

/-- What the command leaves beside `sec_bss.IEs`. -/
structure JoinBssResult where
  authenticatorIe : List UInt8
  ieLength : ℕ
  qosOption : Bool
  htOption : Bool
  assocAPVendor : HtIotPeer

def restructWmm (a : JoinBssInfo) (inLen ieLength : ℕ) : W (ℕ × Bool) :=
  if a.wmmEnable then do
    let tmpLen ← rtwRestructWmmIe inLen ieLength
    pure (if ieLength ≠ tmpLen then (tmpLen, true) else (ieLength, false))
  else pure (ieLength, false)

def JoinBssInfo.htAllowed (a : JoinBssInfo) : Bool :=
  a.htEnable && a.dot11PrivacyAlgrthm != _WEP40_ && a.dot11PrivacyAlgrthm != _WEP104_ && a.dot11PrivacyAlgrthm != _TKIP_

def restructureHt (a : JoinBssInfo) (inLen : ℕ) (qosOption : Bool) (ieLength : ℕ) : W (ℕ × Bool) :=
  if a.htAllowed then rtwRestructureHtIe a inLen qosOption ieLength else pure (ieLength, false)

/-- `rtw_joinbss_cmd` behind the allocation of its command, for a record with `inLen` bytes in `IEs`. -/
def rtwJoinbssCmd (a : JoinBssInfo) (inLen : ℕ) : W JoinBssResult := do
  store .out 0 (List.replicate MAX_IE_SZ 0)
  memcpy .out 0 .ies 0 inLen
  let auth ← load .out 12 (if inLen - 12 < 255 then inLen - 12 else 255)
  let ieLength ← rtwRestructSecIe a
  let (ieLength, qosOption) ← restructWmm a inLen ieLength
  let (ieLength, htOption) ← restructureHt a inLen qosOption ieLength
  let assocAPVendor ← checkAssocAP inLen
  pure ⟨UInt8.ofNat inLen :: auth, ieLength, qosOption || htOption, htOption, assocAPVendor⟩

/-! ## What should hold -/

/-- Behind the counted suites that a stretch of an RSN element starts with. -/
def skipSuites : List UInt8 → Option (List UInt8)
  | lo :: hi :: rest =>
    if 4 * (lo.toNat + 256 * hi.toNat) ≤ rest.length then some (rest.drop (4 * (lo.toNat + 256 * hi.toNat))) else none
  | _ => none

/-- Behind version, group suite, pairwise suites, key management suites and capabilities. -/
def behindCapabilities (body : List UInt8) : Option (List UInt8) :=
  if 6 ≤ body.length then
    (skipSuites (body.drop 6)).bind fun akms => (skipSuites akms).bind fun rest =>
      if 2 ≤ rest.length then some (rest.drop 2) else none
  else none

def rsnPmkids (body : List UInt8) : Option (List (List UInt8)) :=
  (behindCapabilities body).bind fun
    | lo :: hi :: keys =>
      if 16 * (lo.toNat + 256 * hi.toNat) ≤ keys.length then
        some ((List.range (lo.toNat + 256 * hi.toNat)).map fun k => (keys.drop (16 * k)).take 16)
      else none
    | _ => some []

/-- An RSN element that ends right after its capabilities. -/
def EndsAfterCapabilities (e : Tlv) : Prop := e.id = _WPA2_IE_ID_ ∧ behindCapabilities e.body = some []

def JoinBssInfo.isWpa (a : JoinBssInfo) : Bool :=
  a.ndisauthtype == Ndis802_11AuthModeWPA || a.ndisauthtype == Ndis802_11AuthModeWPAPSK ||
    (a.ndisauthtype == Ndis802_11AuthModeWPA2 || a.ndisauthtype == Ndis802_11AuthModeWPA2PSK)

def JoinBssInfo.sec (a : JoinBssInfo) : List Tlv :=
  if a.underWps then [a.wpsIe] else if a.isWpa then [a.supplicantIe] else []

/-- The element itself, or with a cached PMKID of the network behind its capabilities. -/
inductive SecOf (a : JoinBssInfo) : List Tlv → Prop
  | plain : SecOf a a.sec
  | withPmkid (e e' : Tlv) (entry : PmkidEntry) (hsec : a.sec = [e]) (hends : EndsAfterCapabilities e)
    (hentry : entry ∈ a.pmkidList) (hused : entry.bUsed = true) (hbssid : entry.bssid = a.assocBssid)
    (hid : e'.id = e.id) (hbody : e'.body = e.body ++ 1 :: 0 :: entry.pmkid.toList)
    (hpmkids : rsnPmkids e'.body = some [entry.pmkid.toList]) : SecOf a [e']

def isWmm (e : Tlv) : Bool := e.id == _VENDOR_SPECIFIC_IE_ && e.body.take 4 == WMM_OUI

/-- An information element of WMM, of some version. -/
def IsWmmInfo (e : Tlv) : Prop := e.id = _VENDOR_SPECIFIC_IE_ ∧ ∃ version, e.body = WMM_OUI ++ [0, version, 0]

/-- HT is used: it is enabled and allowed with the cipher, and the network has capabilities. -/
def htUsed (a : JoinBssInfo) (es : List Tlv) : Bool :=
  a.htAllowed && (es.find? (·.id == _HT_CAPABILITY_IE_)).any (!·.body.isEmpty)

theorem length_htCapie (a : JoinBssInfo) : (htCapie a).length = 26 := by
  rw [htCapie, List.length_cons, List.length_cons, List.length_cons, List.length_replicate]

def htCapElement (a : JoinBssInfo) : Tlv := ⟨_HT_CAPABILITY_IE_, htCapie a, by rw [length_htCapie]; norm_num⟩

/-- The capabilities, and the information of the network if it has the right size. -/
def htElements (a : JoinBssInfo) (es : List Tlv) : List Tlv :=
  if htUsed a es then
    htCapElement a :: ((es.find? (·.id == _HT_ADD_INFO_IE_)).toList.filter fun e => e.body.length == sizeofHtAddtInfo)
  else []

/-- The elements of `sec_bss`: security, WMM and HT. -/
structure Elements (a : JoinBssInfo) (es out : List Tlv) : Prop where
  parts : ∃ sec wmm, out = sec ++ wmm ++ htElements a es ∧ SecOf a sec ∧
    if (a.wmmEnable && es.any isWmm) || htUsed a es then ∃ e, wmm = [e] ∧ IsWmmInfo e else wmm = []

/-- From the record `ies` the command reads in it only, and leaves the fixed bytes and a list of the elements there should
be, of the length it gives. -/
structure Assembles (iesSize : ℕ) (a : JoinBssInfo) (fixed : List UInt8) (es : List Tlv) (s : Regions JoinRegion) : Prop where
  inside : Inside (Fits (size iesSize)) (rtwJoinbssCmd a (12 + (encodeAll es).length)) s
  elements : ∃ out, Elements a es out ∧
    bytesAt (((rtwJoinbssCmd a (12 + (encodeAll es).length)).run s).st .out) 0
      ((rtwJoinbssCmd a (12 + (encodeAll es).length)).run s).val.ieLength = fixed ++ encodeAll out

end JoinBss

end Rtl8723au
