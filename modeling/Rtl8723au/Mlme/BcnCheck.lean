import Rtl8723au.Ap.BcnCap
import Rtl8723au.Ap.BcnIe
import Rtl8723au.Ieee80211.SecurityIeExact

/-! `rtw_get_bcn_info` of `core/rtw_ieee80211.c` notes what the beacon of the network that is joined tells of itself, and
`rtw_check_bcn_info` of `core/rtw_wlan_util.c` derives the same from each later beacon and compares. The parsers write
the ciphers that they have come to also where they fail. -/
namespace Rtl8723au
namespace BcnCheck
open Mem Security AccessM Ieee80211
set_option autoImplicit false

def ENCRYP_PROTOCOL_OPENSYS : UInt8 := 0
def ENCRYP_PROTOCOL_WEP : UInt8 := 1
def ENCRYP_PROTOCOL_WPA : UInt8 := 2
def ENCRYP_PROTOCOL_WPA2 : UInt8 := 3

/-- `WLAN_BCN_INFO`. -/
structure WlanBcnInfo where
  encrypProtocol : UInt8
  groupCipher : BitVec 32
  pairwiseCipher : BitVec 32
  is8021x : BitVec 32
  htCapInfo : ℕ
  htInfoInfos0 : UInt8

/-- What the two functions use of `cur_network`; the addresses of `ies` count from `network.IEs`. -/
structure WlanNetwork where
  macAddress : List UInt8
  ssidLength : ℕ
  ssid : List UInt8
  privacy : ℕ
  ies : Mem
  ieLength : ℕ
  bcnInfo : WlanBcnInfo

/-! ## What both of them read -/

/-- `rtw_get_ie` on the elements of a network. -/
def getIe (ies : Mem) (ieLength : ℕ) (index : UInt8) : Option (ℤ × ℕ) :=
  ((rtwGetIe _FIXED_IE_LENGTH_ index (asInt (uint (ieLength - _FIXED_IE_LENGTH_)))).run ies).val

def capPrivacy (ies : Mem) : Bool := (countAt ies 10).testBit 4

/-- The loop of `rtw_get_sec_ie`, which is asked for the lengths only. -/
def secIeLoop (inIe : Mem) (inLen : ℕ) : ℕ → ℕ → ℕ → ℕ → ℕ × ℕ
  | 0, _, rsnLen, wpaLen => (rsnLen, wpaLen)
  | fuel + 1, cnt, rsnLen, wpaLen =>
    if cnt < inLen then
      let size := (inIe (cnt + 1)).toNat + 2
      if inIe cnt = _WPA_IE_ID_ ∧ bytesAt inIe (cnt + 2) 4 = wpaOuiType then
        secIeLoop inIe inLen fuel (cnt + size) rsnLen size
      else if inIe cnt = _WPA2_IE_ID_ then secIeLoop inIe inLen fuel (cnt + size) size wpaLen
      else secIeLoop inIe inLen fuel (cnt + size) rsnLen wpaLen
    else (rsnLen, wpaLen)

/-- `rtw_get_sec_ie`. -/
def rtwGetSecIe (inIe : Mem) (inLen : ℕ) : ℕ × ℕ := secIeLoop inIe inLen inLen _FIXED_IE_LENGTH_ 0 0

/-- The protocol that the elements and the bit for privacy tell; the last value is kept where they tell none. -/
def encrypProtocol (ies : Mem) (ieLength : ℕ) (privacy : Bool) (kept : UInt8) : UInt8 :=
  let lens := rtwGetSecIe ies ieLength
  if 0 < lens.1 then ENCRYP_PROTOCOL_WPA2
  else if 0 < lens.2 then ENCRYP_PROTOCOL_WPA
  else if privacy then ENCRYP_PROTOCOL_WEP
  else kept

def noCiphers : Ciphers := ⟨0, 0, some 0⟩

def memFrom (m : Mem) (p : ℤ) : Mem := fun x => m (p + x)

/-- The parser on the element that `rtw_get_wpa2_ie` finds. -/
def wpa2Ciphers (ies : Mem) (ieLength : ℕ) : Bool × Ciphers :=
  match getIe ies ieLength _WPA2_IE_ID_ with
  | none => (false, noCiphers)
  | some (pbuf, wpaIelen) =>
    if 0 < wpaIelen then ((rtwParseWpa2Ie (wpaIelen + 2) noCiphers).run (memFrom ies pbuf)).val else (false, noCiphers)

/-- What a parser answers and has written for the element that is found, of WPA or else of WPA2. -/
def foundCiphers (ies : Mem) (ieLength : ℕ) : Bool × Ciphers :=
  match ((rtwGetWpaIe _FIXED_IE_LENGTH_ (asInt (uint (ieLength - _FIXED_IE_LENGTH_)))).run ies).val with
  | none => wpa2Ciphers ies ieLength
  | some (pbuf, wpaIelen) =>
    if 0 < wpaIelen then ((rtwParseWpaIe (wpaIelen + 2) noCiphers).run (memFrom ies pbuf)).val
    else wpa2Ciphers ies ieLength

def htCapInfo (ies : Mem) (ieLength : ℕ) : ℕ :=
  match getIe ies ieLength _HT_CAPABILITY_IE_ with
  | none => 0
  | some (p, len) => if 0 < len then countAt ies (p + 2) else 0

/-- `pht_info`, or none for the null pointer. -/
def htInfo (ies : Mem) (ieLength : ℕ) : Option ℤ :=
  match getIe ies ieLength _HT_ADD_INFO_IE_ with
  | none => none
  | some (p, len) => if 0 < len then some (p + 2) else none

def htInfoInfos0 (ies : Mem) (ieLength : ℕ) : UInt8 :=
  match htInfo ies ieLength with
  | none => 0
  | some phtInfo => ies (phtInfo + 1)

/-! ## `rtw_get_bcn_info` -/

/-- The ciphers are noted where the parser accepts the element. -/
def WlanBcnInfo.setCiphers (info : WlanBcnInfo) (r : Bool × Ciphers) : WlanBcnInfo :=
  if r.1 then
    { info with
      pairwiseCipher := r.2.pairwiseCipher
      groupCipher := r.2.groupCipher
      is8021x := r.2.is8021x.getD 0 }
  else info

/-- `rtw_get_cipher_info`. -/
def rtwGetCipherInfo (net : WlanNetwork) : WlanNetwork :=
  { net with bcnInfo := net.bcnInfo.setCiphers (foundCiphers net.ies net.ieLength) }

/-- `rtw_get_bcn_info`. -/
def rtwGetBcnInfo (net : WlanNetwork) : WlanNetwork :=
  let bencrypt := capPrivacy net.ies
  let privacy := if bencrypt then 1 else net.privacy
  let opened := if bencrypt then net.bcnInfo.encrypProtocol else ENCRYP_PROTOCOL_OPENSYS
  let protocol := encrypProtocol net.ies net.ieLength bencrypt opened
  let net := rtwGetCipherInfo { net with privacy := privacy, bcnInfo := { net.bcnInfo with encrypProtocol := protocol } }
  { net with bcnInfo := { net.bcnInfo with
      htCapInfo := htCapInfo net.ies net.ieLength, htInfoInfos0 := htInfoInfos0 net.ies net.ieLength } }

/-! ## `rtw_check_bcn_info` -/

def hdr3addr : ℕ := 24

/-- `IEs` of a structure that is zeroed, with the elements of the frame; `heap` lies behind it. -/
def copiedIes (heap pframe : Mem) (len : ℕ) : Mem :=
  putBytes (fun x => if x < MAX_IE_SZ then 0 else heap x) 0 (bytesAt pframe hdr3addr len)

def bcnChannel (ies : Mem) (ieLength : ℕ) (curChannel : UInt8) : UInt8 :=
  match getIe ies ieLength _DSSET_IE_ with
  | some (p, _) => ies (p + 2)
  | none =>
    match htInfo ies ieLength with
    | some phtInfo => ies phtInfo
    | none => curChannel

/-- `Ssid` of the zeroed structure, for a name of at most 32 bytes. -/
def bcnSsid (ies : Mem) (ieLength : ℕ) : ℕ × List UInt8 :=
  match getIe ies ieLength _SSID_IE_ with
  | none => (0, List.replicate 32 0)
  | some (p, _) =>
    let n := (ies (p + 1)).toNat
    if n ≠ 0 then (n, bytesAt ies (p + 2) n ++ List.replicate (32 - n) 0) else (0, List.replicate 32 0)

def WlanBcnInfo.updateHt (info : WlanBcnInfo) (htCapInfo : ℕ) (htInfoInfos0 : UInt8) : WlanBcnInfo :=
  if htCapInfo ≠ info.htCapInfo ∨ htInfoInfos0 &&& 0x03 ≠ info.htInfoInfos0 &&& 0x03 then
    { info with
      htCapInfo := htCapInfo
      htInfoInfos0 := htInfoInfos0 }
  else info

/-- `rtw_check_bcn_info`, where `true` is `_SUCCESS`, which is `_TRUE`; and `BcnInfo` behind it. -/
def rtwCheckBcnInfo (heap : Mem) (associated : Bool) (curChannel : UInt8) (net : WlanNetwork) (pframe : Mem)
    (packetLen : ℕ) : Bool × WlanBcnInfo :=
  let len := uint (packetLen - hdr3addr)
  let ies := copiedIes heap pframe len
  let info := net.bcnInfo.updateHt (htCapInfo ies len) (htInfoInfos0 ies len)
  let ssid := bcnSsid ies len
  let protocol := encrypProtocol ies len (capPrivacy ies) 0
  let ciphers := (foundCiphers ies len).2
  if associated = false then (true, net.bcnInfo)
  else if MAX_IE_SZ < len then (false, net.bcnInfo)
  else if net.macAddress ≠ bytesAt pframe 16 6 then (true, net.bcnInfo)
  else if bcnChannel ies len curChannel ≠ curChannel then (false, info)
  else if (ssid.2 ≠ net.ssid ∨ ssid.1 ≠ net.ssidLength) ∧ ssid.2.head? ≠ some 0 ∧ ssid.1 ≠ 0 then (false, info)
  else if net.privacy ≠ (if capPrivacy ies then 1 else 0) then (false, info)
  else if info.encrypProtocol ≠ protocol then (false, info)
  else if (protocol = ENCRYP_PROTOCOL_WPA ∨ protocol = ENCRYP_PROTOCOL_WPA2) ∧
    (ciphers.pairwiseCipher ≠ info.pairwiseCipher ∨ ciphers.groupCipher ≠ info.groupCipher ∨
      ciphers.is8021x ≠ some info.is8021x) then (false, info)
  else (true, info)

/-! ## The beacon and the network -/

/-- The name that the elements tell, with zeros behind it. -/
def ssidOf (es : List Tlv) : ℕ × List UInt8 :=
  match firstAt (fun e => e.id = _SSID_IE_) es 0 with
  | none => (0, List.replicate 32 0)
  | some (_, e) => (e.body.length, e.body ++ List.replicate (32 - e.body.length) 0)

/-- The network has the address, the name, the privacy and the elements of the beacon, whose name has at most 32
bytes. -/
structure OfBeacon (net : WlanNetwork) (pframe : Mem) (packetLen : ℕ) (fixed : List UInt8) (es : List Tlv) : Prop where
  frame_length : packetLen = hdr3addr + (_FIXED_IE_LENGTH_ + (Tlv.encodeAll es).length)
  short : _FIXED_IE_LENGTH_ + (Tlv.encodeAll es).length ≤ MAX_IE_SZ
  frame_bytes : bytesAt pframe hdr3addr (_FIXED_IE_LENGTH_ + (Tlv.encodeAll es).length) = fixed ++ Tlv.encodeAll es
  macAddress : net.macAddress = bytesAt pframe 16 6
  ies : HoldsIes ⟨net.ies, net.ieLength⟩ fixed es
  ssid_short : ∀ k e, firstAt (fun e => e.id = _SSID_IE_) es 0 = some (k, e) → e.body.length ≤ 32
  ssid : (net.ssidLength, net.ssid) = ssidOf es
  privacy : net.privacy = if capPrivacy net.ies then 1 else 0

def namedChannel (es : List Tlv) : Option UInt8 :=
  match firstAt (fun e => e.id = _DSSET_IE_) es 0 with
  | some (_, ds) => ds.body.head?
  | none =>
    match firstAt (fun e => e.id = _HT_ADD_INFO_IE_) es 0 with
    | some (_, ht) => ht.body.head?
    | none => none

def OnChannel (curChannel : UInt8) (es : List Tlv) : Prop := ∀ c ∈ namedChannel es, c = curChannel

def hasRsn (es : List Tlv) : Bool := es.any fun e => e.id = _WPA2_IE_ID_

/-- A vendor's element starts like one of WPA, with the bytes that stand there. -/
def tellsWpa (m : Mem) : ℤ → List Tlv → Bool
  | _, [] => false
  | p, e :: es => (e.id = _WPA_IE_ID_ && bytesAt m (p + 2) 4 = wpaOuiType) || tellsWpa m (p + e.size) es

/-- An element that ciphers are taken from. -/
inductive CipherIe where
  | wpa (pbuf : ℤ) (len : ℕ)
  | wpa2 (pbuf : ℤ) (len : ℕ)

def wpa2Ie (es : List Tlv) : Option CipherIe :=
  match firstAt (fun e => e.id = _WPA2_IE_ID_) es 0 with
  | none => none
  | some (k, e) => if 0 < e.body.length then some (.wpa2 (_FIXED_IE_LENGTH_ + k) e.body.length) else none

def cipherIe (m : Mem) (es : List Tlv) : Option CipherIe :=
  match firstLooking m _FIXED_IE_LENGTH_ es with
  | none => wpa2Ie es
  | some (p, len) => if 0 < len then some (.wpa p len) else wpa2Ie es

/-- What the parser answers and writes for an element. -/
def told (m : Mem) : Option CipherIe → Bool × Ciphers
  | none => (false, noCiphers)
  | some (.wpa pbuf len) => ((rtwParseWpaIe (len + 2) noCiphers).run (memFrom m pbuf)).val
  | some (.wpa2 pbuf len) => ((rtwParseWpa2Ie (len + 2) noCiphers).run (memFrom m pbuf)).val

def WlanBcnInfo.ciphers (info : WlanBcnInfo) : Ciphers := ⟨info.groupCipher, info.pairwiseCipher, some info.is8021x⟩

/-- When a beacon that has not changed does not end the link: a channel element has a body, or the byte behind it is
the channel; what lies behind the elements completes no vendor's element in one of the buffers alone; and the ciphers
that are noted, the earlier ones if the parser has failed, are those that it writes for the copy. -/
structure KeepsLink (old : WlanBcnInfo) (ies copied : Mem) (curChannel : UInt8) (es : List Tlv) : Prop where
  channel : ∀ k ds, firstAt (fun e => e.id = _DSSET_IE_) es 0 = some (k, ds) → ds.body = [] →
    copied (_FIXED_IE_LENGTH_ + k + 2) = curChannel
  vendor : hasRsn es = true ∨ tellsWpa ies _FIXED_IE_LENGTH_ es = tellsWpa copied _FIXED_IE_LENGTH_ es
  ciphers : hasRsn es = true ∨ tellsWpa copied _FIXED_IE_LENGTH_ es = true →
    (told copied (cipherIe copied es)).2 = (old.setCiphers (told ies (cipherIe ies es))).ciphers

/-! ## What is read from a list -/

section
variable {ies : Mem} {n : ℕ} {fixed : List UInt8} {es : List Tlv}

theorem getIe_answers (h : HoldsIes ⟨ies, n⟩ fixed es) (hroom : n < 2 ^ 31) (index : UInt8) :
    Answers ies _FIXED_IE_LENGTH_ (getIe ies n index) (firstAt (fun e => e.id = index) es 0) := by
  have hlen : n = _FIXED_IE_LENGTH_ + (Tlv.encodeAll es).length := h.length
  have hlimit : asInt (uint ((n : ℤ) - (_FIXED_IE_LENGTH_ : ℕ))) = (Tlv.encodeAll es).length :=
    BcnIe.limit_of_holds h (by omega)
  rw [getIe, hlimit]
  exact answers_rtwGetIe (BcnIe.bytes_list h) index

theorem fixed_byte (h : HoldsIes ⟨ies, n⟩ fixed es) (k : ℕ) (hk : k < _FIXED_IE_LENGTH_) :
    ies k = fixed.getD k 0 := by
  have hfixed := h.fixed_length
  have hbytes : bytesAt ies 0 (fixed ++ Tlv.encodeAll es).length = fixed ++ Tlv.encodeAll es := by
    rw [List.length_append, hfixed]
    exact h.bytes
  have hbyte := getD_bytesAt 0 hbytes k (by rw [List.length_append]; omega)
  rw [zero_add, List.getD_append _ _ _ _ (by omega)] at hbyte
  exact hbyte

theorem head_of_body {p : ℤ} {body : List UInt8} (h : bytesAt ies p body.length = body) (hne : body ≠ []) :
    body.head? = some (ies p) := by
  obtain ⟨c, rest, rfl⟩ := List.exists_cons_of_ne_nil hne
  have hbyte := getD_bytesAt p h 0 (Nat.succ_pos _)
  rw [Nat.cast_zero, add_zero] at hbyte
  rw [hbyte]
  rfl

theorem htInfo_eq (h : HoldsIes ⟨ies, n⟩ fixed es) (hroom : n < 2 ^ 31) :
    (htInfo ies n).map ies = (firstAt (fun e => e.id = _HT_ADD_INFO_IE_) es 0).bind fun r => r.2.body.head? := by
  have hans := getIe_answers h hroom _HT_ADD_INFO_IE_
  rw [htInfo]
  cases hfirst : firstAt (fun e => e.id = _HT_ADD_INFO_IE_) es 0 with
  | none =>
    rw [hfirst] at hans
    rw [hans]
    rfl
  | some r =>
    obtain ⟨k, e⟩ := r
    rw [hfirst] at hans
    obtain ⟨hfound, hbody⟩ := hans
    rw [hfound]
    by_cases hempty : e.body = []
    · dsimp only [Option.bind]
      rw [hempty]
      rfl
    · have hpos : 0 < e.body.length := List.length_pos_of_ne_nil hempty
      dsimp only [Option.bind]
      rw [if_pos hpos, head_of_body hbody hempty]
      rfl

theorem bcnChannel_iff {curChannel : UInt8} (h : HoldsIes ⟨ies, n⟩ fixed es) (hroom : n < 2 ^ 31)
    (hon : OnChannel curChannel es) : bcnChannel ies n curChannel = curChannel ↔
      ∀ k ds, firstAt (fun e => e.id = _DSSET_IE_) es 0 = some (k, ds) → ds.body = [] →
        ies (_FIXED_IE_LENGTH_ + k + 2) = curChannel := by
  have hans := getIe_answers h hroom _DSSET_IE_
  have hht := htInfo_eq h hroom
  rw [OnChannel, namedChannel] at hon
  rw [bcnChannel]
  cases hfirst : firstAt (fun e => e.id = _DSSET_IE_) es 0 with
  | none =>
    rw [hfirst] at hans hon
    rw [hans]
    dsimp only at hon ⊢
    refine iff_of_true ?_ fun k ds hds => absurd hds (Option.some_ne_none (k, ds)).symm
    cases hinfo : htInfo ies n with
    | none => rfl
    | some p =>
      rw [hinfo, Option.map_some] at hht
      cases hadd : firstAt (fun e => e.id = _HT_ADD_INFO_IE_) es 0 with
      | none =>
        rw [hadd] at hht
        cases hht
      | some r =>
        rw [hadd] at hht hon
        exact hon _ hht.symm
  | some r =>
    obtain ⟨k, ds⟩ := r
    rw [hfirst] at hans hon
    obtain ⟨hfound, hbody⟩ := hans
    rw [hfound]
    dsimp only at hon ⊢
    constructor
    · rintro hchannel k' ds' hsome -
      obtain ⟨rfl, -⟩ := Prod.mk.inj (Option.some.inj hsome)
      exact hchannel
    · intro hall
      by_cases hempty : ds.body = []
      · exact hall k ds rfl hempty
      · exact hon _ (head_of_body hbody hempty)

theorem bcnSsid_eq (h : HoldsIes ⟨ies, n⟩ fixed es) (hroom : n < 2 ^ 31) : bcnSsid ies n = ssidOf es := by
  have hans := getIe_answers h hroom _SSID_IE_
  rw [bcnSsid, ssidOf]
  cases hfirst : firstAt (fun e => e.id = _SSID_IE_) es 0 with
  | none =>
    rw [hfirst] at hans
    rw [hans]
  | some r =>
    obtain ⟨k, e⟩ := r
    rw [hfirst] at hans
    obtain ⟨hfound, hbody⟩ := hans
    have hstart : bytesAt ies (_FIXED_IE_LENGTH_ + (0 : ℕ)) (Tlv.encodeAll es).length = Tlv.encodeAll es := by
      rw [Nat.cast_zero, add_zero]
      exact BcnIe.bytes_list h
    rw [hfound]
    dsimp only
    rw [length_byte hstart hfirst, hbody]
    by_cases hempty : e.body = []
    · rw [hempty]
      rfl
    · rw [if_pos fun hzero => hempty (List.eq_nil_of_length_eq_zero hzero)]

/-! ## The protocol -/

theorem secIeLoop_val {m : Mem} {inLen : ℕ} (fuel : ℕ) (es : List Tlv) (cnt rsnLen wpaLen : ℕ) (hfuel : es.length ≤ fuel)
    (hend : cnt + (Tlv.encodeAll es).length = inLen)
    (h : bytesAt m cnt (Tlv.encodeAll es).length = Tlv.encodeAll es) :
    (0 < (secIeLoop m inLen fuel cnt rsnLen wpaLen).1 ↔ 0 < rsnLen ∨ hasRsn es = true) ∧
    (0 < (secIeLoop m inLen fuel cnt rsnLen wpaLen).2 ↔ 0 < wpaLen ∨ tellsWpa m cnt es = true) := by
  induction es generalizing fuel cnt rsnLen wpaLen with
  | nil =>
    have hdone : secIeLoop m inLen fuel cnt rsnLen wpaLen = (rsnLen, wpaLen) := by
      cases fuel with
      | zero => rfl
      | succ fuel =>
        rw [Tlv.encodeAll_nil, List.length_nil] at hend
        rw [secIeLoop, if_neg (by omega)]
    rw [hdone]
    exact ⟨(or_iff_left Bool.false_ne_true).symm, (or_iff_left Bool.false_ne_true).symm⟩
  | cons e es ih =>
    cases fuel with
    | zero => exact absurd hfuel (Nat.not_succ_le_zero _)
    | succ fuel =>
      obtain ⟨hid, hlen, hrest⟩ := encode_at h
      rw [Tlv.encodeAll_cons, List.length_append, Tlv.encode_length] at hend
      have hsize : (m ((cnt : ℤ) + 1)).toNat + 2 = e.size := by rw [hlen, Tlv.size]
      have hmore : cnt < inLen := by
        rw [Tlv.size] at hend
        omega
      have hplace : (cnt : ℤ) + e.size = (cnt + e.size : ℕ) := (Nat.cast_add _ _).symm
      have hpos : 0 < e.size := Nat.succ_pos _
      rw [hplace] at hrest
      have hnext (rsnLen wpaLen : ℕ) := ih fuel (cnt + e.size) rsnLen wpaLen (Nat.le_of_succ_le_succ hfuel)
        (by omega) hrest
      have hrsn : hasRsn (e :: es) = (decide (e.id = _WPA2_IE_ID_) || hasRsn es) := rfl
      rw [secIeLoop, if_pos hmore, hid, hrsn, tellsWpa, hplace]
      dsimp only
      rw [hsize]
      by_cases hwpa : e.id = _WPA_IE_ID_ ∧ bytesAt m ((cnt : ℤ) + 2) 4 = wpaOuiType
      · have hnot : e.id ≠ _WPA2_IE_ID_ := fun hid' => absurd (hwpa.1.symm.trans hid') (by decide)
        obtain ⟨hfst, hsnd⟩ := hnext rsnLen e.size
        rw [if_pos hwpa, hfst, hsnd, decide_eq_false hnot, decide_eq_true hwpa.1, decide_eq_true hwpa.2]
        exact ⟨Iff.rfl, iff_of_true (.inl hpos) (.inr rfl)⟩
      · have hneither : (decide (e.id = _WPA_IE_ID_) && decide (bytesAt m ((cnt : ℤ) + 2) 4 = wpaOuiType)) = false := by
          rw [← Bool.decide_and]
          exact decide_eq_false hwpa
        rw [if_neg hwpa, hneither, Bool.false_or]
        by_cases hrsn' : e.id = _WPA2_IE_ID_
        · obtain ⟨hfst, hsnd⟩ := hnext e.size wpaLen
          rw [if_pos hrsn', hfst, hsnd, decide_eq_true hrsn']
          exact ⟨iff_of_true (.inl hpos) (.inr rfl), Iff.rfl⟩
        · obtain ⟨hfst, hsnd⟩ := hnext rsnLen wpaLen
          rw [if_neg hrsn', hfst, hsnd, decide_eq_false hrsn', Bool.false_or]
          exact ⟨Iff.rfl, Iff.rfl⟩

theorem encrypProtocol_eq (h : HoldsIes ⟨ies, n⟩ fixed es) (privacy : Bool) (kept : UInt8) :
    encrypProtocol ies n privacy kept =
      if hasRsn es then ENCRYP_PROTOCOL_WPA2
      else if tellsWpa ies _FIXED_IE_LENGTH_ es then ENCRYP_PROTOCOL_WPA
      else if privacy then ENCRYP_PROTOCOL_WEP
      else kept := by
  have hlen : n = _FIXED_IE_LENGTH_ + (Tlv.encodeAll es).length := h.length
  have hcount := length_le_encodeAll es
  obtain ⟨hrsn, hwpa⟩ := secIeLoop_val n es _FIXED_IE_LENGTH_ 0 0 (by omega) hlen.symm (BcnIe.bytes_list h)
  rw [or_iff_right (Nat.lt_irrefl 0)] at hrsn hwpa
  rw [encrypProtocol, rtwGetSecIe]
  exact if_congr hrsn rfl (if_congr hwpa rfl rfl)

/-! ## The ciphers -/

theorem wpa2Ciphers_eq (h : HoldsIes ⟨ies, n⟩ fixed es) (hroom : n < 2 ^ 31) :
    wpa2Ciphers ies n = told ies (wpa2Ie es) := by
  have hans := getIe_answers h hroom _WPA2_IE_ID_
  rw [wpa2Ciphers, wpa2Ie]
  cases hfirst : firstAt (fun e => e.id = _WPA2_IE_ID_) es 0 with
  | none =>
    rw [hfirst] at hans
    rw [hans]
    rfl
  | some r =>
    obtain ⟨k, e⟩ := r
    rw [hfirst] at hans
    rw [hans.1]
    dsimp only
    split
    · rfl
    · rfl

theorem foundCiphers_eq (h : HoldsIes ⟨ies, n⟩ fixed es) (hroom : n < 2 ^ 31) :
    foundCiphers ies n = told ies (cipherIe ies es) := by
  have hlen : n = _FIXED_IE_LENGTH_ + (Tlv.encodeAll es).length := h.length
  have hlimit : asInt (uint ((n : ℤ) - (_FIXED_IE_LENGTH_ : ℕ))) = (Tlv.encodeAll es).length :=
    BcnIe.limit_of_holds h (by omega)
  rw [foundCiphers, hlimit, rtwGetWpaIe_val (BcnIe.bytes_list h), wpa2Ciphers_eq h hroom, cipherIe]
  cases hfirst : firstLooking ies _FIXED_IE_LENGTH_ es with
  | none => rfl
  | some r =>
    dsimp only
    split
    · rfl
    · rfl

end

/-! ## The two functions on one beacon -/

section
variable {net : WlanNetwork} {pframe : Mem} {packetLen : ℕ} {fixed : List UInt8} {es : List Tlv}

theorem len_of_beacon (h : OfBeacon net pframe packetLen fixed es) :
    uint ((packetLen : ℤ) - hdr3addr) = _FIXED_IE_LENGTH_ + (Tlv.encodeAll es).length := by
  have hlen := h.frame_length
  have hshort := h.short
  have hmax : MAX_IE_SZ = 768 := rfl
  have hcast : (packetLen : ℤ) - hdr3addr = (_FIXED_IE_LENGTH_ + (Tlv.encodeAll es).length : ℕ) := by omega
  rw [hcast]
  exact uint_natCast _ (by omega)

theorem holds_copy (heap : Mem) (h : OfBeacon net pframe packetLen fixed es) :
    HoldsIes ⟨copiedIes heap pframe (_FIXED_IE_LENGTH_ + (Tlv.encodeAll es).length),
      _FIXED_IE_LENGTH_ + (Tlv.encodeAll es).length⟩ fixed es := by
  refine ⟨h.ies.fixed_length, rfl, ?_⟩
  have hwritten := bytesAt_written (fun x => if x < MAX_IE_SZ then 0 else heap x) 0
    (bytesAt pframe hdr3addr (_FIXED_IE_LENGTH_ + (Tlv.encodeAll es).length))
  rw [bytesAt_length] at hwritten
  exact hwritten.trans h.frame_bytes

theorem capPrivacy_fixed {ies : Mem} {n : ℕ} (h : HoldsIes ⟨ies, n⟩ fixed es) :
    capPrivacy ies = ((fixed.getD 10 0).toNat + 256 * (fixed.getD 11 0).toNat).testBit 4 := by
  have hlow : ies 10 = fixed.getD 10 0 := fixed_byte h 10 (by decide)
  have hhigh : ies 11 = fixed.getD 11 0 := fixed_byte h 11 (by decide)
  have heleven : (10 : ℤ) + 1 = 11 := by norm_num
  rw [capPrivacy, countAt, heleven, hlow, hhigh]

/-! ### What is noted -/

theorem setCiphers_encrypProtocol (info : WlanBcnInfo) (r : Bool × Ciphers) :
    (info.setCiphers r).encrypProtocol = info.encrypProtocol := by
  rw [WlanBcnInfo.setCiphers]
  split
  · rfl
  · rfl

theorem setCiphers_ciphers {info info' : WlanBcnInfo} (h : info.ciphers = info'.ciphers) (r : Bool × Ciphers) :
    (info.setCiphers r).ciphers = (info'.setCiphers r).ciphers := by
  rw [WlanBcnInfo.setCiphers, WlanBcnInfo.setCiphers]
  split
  · rfl
  · exact h

theorem rtwGetBcnInfo_protocol (net : WlanNetwork) : (rtwGetBcnInfo net).bcnInfo.encrypProtocol =
    encrypProtocol net.ies net.ieLength (capPrivacy net.ies)
      (if capPrivacy net.ies then net.bcnInfo.encrypProtocol else ENCRYP_PROTOCOL_OPENSYS) :=
  setCiphers_encrypProtocol _ _

theorem rtwGetBcnInfo_ciphers (net : WlanNetwork) : (rtwGetBcnInfo net).bcnInfo.ciphers =
    (net.bcnInfo.setCiphers (foundCiphers net.ies net.ieLength)).ciphers := by
  let protocol := encrypProtocol net.ies net.ieLength (capPrivacy net.ies)
    (if capPrivacy net.ies then net.bcnInfo.encrypProtocol else ENCRYP_PROTOCOL_OPENSYS)
  let noted : WlanBcnInfo := { net.bcnInfo with encrypProtocol := protocol }
  have hnoted : noted.ciphers = net.bcnInfo.ciphers := rfl
  exact setCiphers_ciphers hnoted _

/-! ### What is compared -/

theorem updateHt_encrypProtocol (info : WlanBcnInfo) (capInfo : ℕ) (infos0 : UInt8) :
    (info.updateHt capInfo infos0).encrypProtocol = info.encrypProtocol := by
  rw [WlanBcnInfo.updateHt]
  split
  · rfl
  · rfl

theorem updateHt_ciphers (info : WlanBcnInfo) (capInfo : ℕ) (infos0 : UInt8) :
    (info.updateHt capInfo infos0).ciphers = info.ciphers := by
  rw [WlanBcnInfo.updateHt]
  split
  · rfl
  · rfl

theorem ciphers_iff (c : Ciphers) (info : WlanBcnInfo) : ¬ (c.pairwiseCipher ≠ info.pairwiseCipher ∨
    c.groupCipher ≠ info.groupCipher ∨ c.is8021x ≠ some info.is8021x) ↔ c = info.ciphers := by
  obtain ⟨group, pairwise, is8021x⟩ := c
  rw [WlanBcnInfo.ciphers, Ciphers.mk.injEq, not_or, not_or, not_ne_iff, not_ne_iff, not_ne_iff]
  exact ⟨fun h => ⟨h.2.1, h.1, h.2.2⟩, fun h => ⟨h.2.1, h.1, h.2.2⟩⟩

theorem reject_iff {c : Prop} [Decidable c] {info : WlanBcnInfo} {x : Bool × WlanBcnInfo} :
    (if c then (false, info) else x).1 = true ↔ ¬ c ∧ x.1 = true := by
  by_cases hc : c
  · rw [if_pos hc]
    exact iff_of_false Bool.false_ne_true fun h => h.1 hc
  · rw [if_neg hc]
    exact (and_iff_right hc).symm

/-- `rtw_check_bcn_info` on a beacon of the network. -/
theorem rtwCheckBcnInfo_iff (heap : Mem) (curChannel : UInt8) (h : OfBeacon net pframe packetLen fixed es)
    (ies : Mem) (hies : ies = copiedIes heap pframe (_FIXED_IE_LENGTH_ + (Tlv.encodeAll es).length)) :
    (rtwCheckBcnInfo heap true curChannel net pframe packetLen).1 = true ↔
      bcnChannel ies (_FIXED_IE_LENGTH_ + (Tlv.encodeAll es).length) curChannel = curChannel ∧
      net.bcnInfo.encrypProtocol =
        encrypProtocol ies (_FIXED_IE_LENGTH_ + (Tlv.encodeAll es).length) (capPrivacy ies) 0 ∧
      (net.bcnInfo.encrypProtocol = ENCRYP_PROTOCOL_WPA ∨ net.bcnInfo.encrypProtocol = ENCRYP_PROTOCOL_WPA2 →
        (foundCiphers ies (_FIXED_IE_LENGTH_ + (Tlv.encodeAll es).length)).2 = net.bcnInfo.ciphers) := by
  have hlen := len_of_beacon h
  have hholds : HoldsIes ⟨ies, _⟩ fixed es := hies ▸ holds_copy heap h
  have hmax : MAX_IE_SZ = 768 := rfl
  have hshort := h.short
  have hssid : bcnSsid ies (_FIXED_IE_LENGTH_ + (Tlv.encodeAll es).length) = (net.ssidLength, net.ssid) := by
    rw [h.ssid]
    exact bcnSsid_eq hholds (by omega)
  have hprivacy : net.privacy = if capPrivacy ies then 1 else 0 := by
    rw [h.privacy, capPrivacy_fixed h.ies, capPrivacy_fixed hholds]
  unfold rtwCheckBcnInfo
  dsimp only
  rw [hlen, ← hies, hssid, if_neg Bool.noConfusion, if_neg (Nat.not_lt.mpr hshort), if_neg (not_not.mpr h.macAddress),
    reject_iff, reject_iff, reject_iff, reject_iff, reject_iff, updateHt_encrypProtocol, not_not, not_not, not_not]
  have hsame : ¬ (((net.ssidLength, net.ssid).2 ≠ net.ssid ∨ (net.ssidLength, net.ssid).1 ≠ net.ssidLength) ∧
      (net.ssidLength, net.ssid).2.head? ≠ some 0 ∧ (net.ssidLength, net.ssid).1 ≠ 0) := fun hdiffer =>
    hdiffer.1.elim (fun hne => hne rfl) fun hne => hne rfl
  rw [and_iff_right hsame, and_iff_right hprivacy, and_iff_left rfl, not_and, ciphers_iff, updateHt_ciphers]
  constructor
  · rintro ⟨hchannel, hprotocol, hciphers⟩
    exact ⟨hchannel, hprotocol, hprotocol ▸ hciphers⟩
  · rintro ⟨hchannel, hprotocol, hciphers⟩
    exact ⟨hchannel, hprotocol, hprotocol ▸ hciphers⟩

theorem protocols_iff (rsn wpa wpa' privacy : Bool) (kept : UInt8) (hkept : privacy = false → kept = 0) :
    ((if rsn then ENCRYP_PROTOCOL_WPA2 else if wpa then ENCRYP_PROTOCOL_WPA
        else if privacy then ENCRYP_PROTOCOL_WEP else kept) =
      (if rsn then ENCRYP_PROTOCOL_WPA2 else if wpa' then ENCRYP_PROTOCOL_WPA
        else if privacy then ENCRYP_PROTOCOL_WEP else 0) ↔ rsn = true ∨ wpa = wpa') := by
  cases privacy with
  | false =>
    rw [hkept rfl]
    revert rsn wpa wpa'
    decide
  | true =>
    revert rsn wpa wpa'
    simp only [if_true]
    decide

theorem wpaProtocol_iff (rsn wpa privacy : Bool) :
    ((if rsn then ENCRYP_PROTOCOL_WPA2 else if wpa then ENCRYP_PROTOCOL_WPA
        else if privacy then ENCRYP_PROTOCOL_WEP else 0) = ENCRYP_PROTOCOL_WPA ∨
      (if rsn then ENCRYP_PROTOCOL_WPA2 else if wpa then ENCRYP_PROTOCOL_WPA
        else if privacy then ENCRYP_PROTOCOL_WEP else 0) = ENCRYP_PROTOCOL_WPA2) ↔ rsn = true ∨ wpa = true := by
  revert rsn wpa privacy
  decide

end

/-- The beacon that `rtw_get_bcn_info` has been run for ends the link exactly unless nothing noted differs from what is
derived again. -/
theorem unchangedBeacon_iff (heap : Mem) (curChannel : UInt8) (net : WlanNetwork) (pframe : Mem) (packetLen : ℕ)
    (fixed : List UInt8) (es : List Tlv) (h : OfBeacon (rtwGetBcnInfo net) pframe packetLen fixed es)
    (hon : OnChannel curChannel es) :
    (rtwCheckBcnInfo heap true curChannel (rtwGetBcnInfo net) pframe packetLen).1 = true ↔
      KeepsLink net.bcnInfo net.ies (copiedIes heap pframe (packetLen - hdr3addr)) curChannel es := by
  have hlen : packetLen - hdr3addr = _FIXED_IE_LENGTH_ + (Tlv.encodeAll es).length := by
    have hframe := h.frame_length
    omega
  have hmax : MAX_IE_SZ = 768 := rfl
  have hshort := h.short
  have hroom : _FIXED_IE_LENGTH_ + (Tlv.encodeAll es).length < 2 ^ 31 := by omega
  have hies : HoldsIes ⟨net.ies, net.ieLength⟩ fixed es := h.ies
  have hieLength : net.ieLength = _FIXED_IE_LENGTH_ + (Tlv.encodeAll es).length := hies.length
  have hcopy := holds_copy heap h
  rw [rtwCheckBcnInfo_iff heap curChannel h _ rfl, hlen]
  generalize copiedIes heap pframe (_FIXED_IE_LENGTH_ + (Tlv.encodeAll es).length) = copied at hcopy ⊢
  have hprivacy : capPrivacy net.ies = capPrivacy copied := by
    rw [capPrivacy_fixed hies, capPrivacy_fixed hcopy]
  rw [bcnChannel_iff hcopy hroom hon, rtwGetBcnInfo_protocol, rtwGetBcnInfo_ciphers, encrypProtocol_eq hies,
    encrypProtocol_eq hcopy, foundCiphers_eq hies (hieLength ▸ hroom), foundCiphers_eq hcopy hroom, hprivacy]
  have hkept : capPrivacy copied = false →
      (if capPrivacy copied then net.bcnInfo.encrypProtocol else ENCRYP_PROTOCOL_OPENSYS) = 0 := by
    intro hopen
    rw [hopen]
    rfl
  have hagree := protocols_iff (hasRsn es) (tellsWpa net.ies _FIXED_IE_LENGTH_ es) (tellsWpa copied _FIXED_IE_LENGTH_ es)
    (capPrivacy copied) _ hkept
  have hwpa := wpaProtocol_iff (hasRsn es) (tellsWpa copied _FIXED_IE_LENGTH_ es) (capPrivacy copied)
  constructor
  · rintro ⟨hchannel, hprotocol, hciphers⟩
    exact ⟨hchannel, hagree.mp hprotocol, fun htells => hciphers (hprotocol ▸ hwpa.mpr htells)⟩
  · rintro ⟨hchannel, hvendor, hciphers⟩
    have hprotocol := hagree.mpr hvendor
    exact ⟨hchannel, hprotocol, fun hnoted => hciphers (hwpa.mp (hprotocol ▸ hnoted))⟩

/-! ## Two beacons -/

/-- The beacon of a network with a name and a channel, whose last element is given. -/
def beaconIes (e : Tlv) : List Tlv := [⟨0x00, [0x61, 0x62], by decide⟩, ⟨0x03, [0x0b], by decide⟩, e]

def beaconFixed : List UInt8 := [0, 0, 0, 0, 0, 0, 0, 0, 0x64, 0, 0x11, 0]

def beaconFrame (e : Tlv) : Mem := fun x =>
  (List.replicate 24 0 ++ (beaconFixed ++ Tlv.encodeAll (beaconIes e))).getD x.toNat 0

/-- The network, of which nothing has been noted. -/
def beaconNetwork (e : Tlv) : WlanNetwork where
  macAddress := List.replicate 6 0
  ssidLength := 2
  ssid := [0x61, 0x62] ++ List.replicate 30 0
  privacy := 1
  ies x := (beaconFixed ++ Tlv.encodeAll (beaconIes e)).getD x.toNat 0
  ieLength := 12 + (Tlv.encodeAll (beaconIes e)).length
  bcnInfo := ⟨0, 0, 0, 0, 0, 0⟩

/-- An element of WPA2 with the cipher of the group, one pairwise cipher and 802.1X. -/
def rsnCcmp : Tlv := ⟨0x30, [0x01, 0x00, 0x00, 0x0f, 0xac, 0x04, 0x01, 0x00, 0x00, 0x0f, 0xac, 0x04, 0x01, 0x00,
  0x00, 0x0f, 0xac, 0x01], by decide⟩

/-- One with the cipher of the group and no pairwise cipher. -/
def rsnNoPairwise : Tlv := ⟨0x30, [0x01, 0x00, 0x00, 0x0f, 0xac, 0x04, 0x00, 0x00], by decide⟩

theorem unchangedBeacon_iff_rsnCcmp :
    (rtwCheckBcnInfo (fun _ => 0) true 11 (rtwGetBcnInfo (beaconNetwork rsnCcmp)) (beaconFrame rsnCcmp) 63).1 = true ↔
      KeepsLink ⟨0, 0, 0, 0, 0, 0⟩ (beaconNetwork rsnCcmp).ies (copiedIes (fun _ => 0) (beaconFrame rsnCcmp) 39) 11
        (beaconIes rsnCcmp) := by
  refine unchangedBeacon_iff (fun _ => 0) 11 (beaconNetwork rsnCcmp) (beaconFrame rsnCcmp) 63 beaconFixed
    (beaconIes rsnCcmp) ⟨rfl, by decide, by decide +kernel, by decide +kernel, ⟨rfl, rfl, by decide +kernel⟩, ?_,
      by decide +kernel, by decide +kernel⟩ ?_
  · intro k e hfirst
    obtain ⟨-, rfl⟩ := Prod.mk.inj (Option.some.inj hfirst)
    decide
  · intro c hc
    exact (Option.some.inj hc).symm

/-- The parser rejects the second, once it has written the cipher of the group. -/
theorem unchangedBeacon_ends_link :
    OfBeacon (rtwGetBcnInfo (beaconNetwork rsnNoPairwise)) (beaconFrame rsnNoPairwise) 53 beaconFixed
      (beaconIes rsnNoPairwise) ∧ OnChannel 11 (beaconIes rsnNoPairwise) ∧
    ¬ (rtwCheckBcnInfo (fun _ => 0) true 11 (rtwGetBcnInfo (beaconNetwork rsnNoPairwise)) (beaconFrame rsnNoPairwise)
      53).1 = true := by
  refine ⟨⟨rfl, by decide, by decide +kernel, by decide +kernel, ⟨rfl, rfl, by decide +kernel⟩, ?_, by decide +kernel,
    by decide +kernel⟩, ?_, by decide +kernel⟩
  · intro k e hfirst
    obtain ⟨-, rfl⟩ := Prod.mk.inj (Option.some.inj hfirst)
    decide
  · intro c hc
    exact (Option.some.inj hc).symm

end BcnCheck

end Rtl8723au
