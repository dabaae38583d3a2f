import Rtl8723au.Ieee80211.Attributes
import Rtl8723au.Ieee80211.RemoveIe
import Rtl8723au.Include.Xmit
import Rtl8723au.Library.RegionFrame
import Rtl8723au.Mlme.AssocReq

/-! `issue_beacon` and `issue_probersp` of `core/rtw_mlme_ext.c` in AP mode, with `update_hidden_ssid`: frames that are made of
the elements of the network, in the buffer of a management frame. -/
namespace Rtl8723au
namespace ApFrame
open AccessM Regions Tlv Security Ieee80211 Mem
open AssocReq (be16)
set_option autoImplicit false

def MAX_XMIT_EXTBUF_SZ : ℕ := 1536
def WIFI_BEACON : ℕ := 0x80
def WIFI_PROBERSP : ℕ := 0x50

def WPS_ATTR_PRIMARY_DEV_TYPE : ℕ := 0x1054
def WPS_PDT_CID_MULIT_MEDIA : ℕ := 0x0008
def WPS_PDT_SCID_MEDIA_SERVER : ℕ := 0x0005
def WPS_ATTR_DEVICE_NAME : ℕ := 0x1011
def WPS_MAX_DEVICE_NAME_LEN : ℕ := 32
def WPS_ATTR_SELECTED_REGISTRAR : ℕ := 0x1041

/-- The buffer of the frame, `cur_network->IEs`, `wps_probe_resp_ie`, the local `buf` of `issue_probersp` and the local `sr` of
`issue_beacon`. -/
inductive Area
  | frame | ies | wps | buf | sr
  deriving DecidableEq

abbrev W := R Area

/-- What is read beside the memory; `p2pIe` and `wfdIe` are what the builders of P2P and WFD append. -/
structure ApConf where
  alloc : Bool := true
  stopped : Bool := false
  go : Bool := false
  hiddenSsidMode : ℕ := 0
  deviceName : List UInt8 := []
  nameShort : deviceName.length ≤ WPS_MAX_DEVICE_NAME_LEN := by decide
  ssid : List UInt8 := []
  ssidShort : ssid.length ≤ 32 := by decide
  wpsProbeRespIe : Bool := false
  mgntSeq : ℕ := 0
  myid : Vector UInt8 6
  macAddress : Vector UInt8 6
  p2pIe : Tlv
  wfdIe : Tlv

/-- `pframe` and `pattrib->pktlen`. -/
structure Cursor where
  pframe : ℤ
  pktlen : ℤ

def Cursor.on (c : Cursor) (n : ℤ) : Cursor := ⟨c.pframe + n, c.pktlen + n⟩

/-- What becomes of the frame that is allocated. -/
inductive Issue
  | nothing
  | leaked
  | sent (c : Cursor)

/-! ## What both do -/

def put (l : List UInt8) (c : Cursor) : W Cursor := do
  store .frame c.pframe l
  pure (c.on l.length)

def copy (r : Area) (x : ℤ) (n : ℕ) (c : Cursor) : W Cursor := do
  memcpy .frame c.pframe r x n
  pure (c.on n)

def wlanhdr (addr1 addr2 addr3 : Vector UInt8 6) (seq type : ℕ) : List UInt8 :=
  let m : Mem := fun _ => 0
  let m := putBytes m 4 addr1.toList
  let m := putBytes m 10 addr2.toList
  let m := putBytes m 16 addr3.toList
  let m := Wifi.setSeqNum m 0 seq
  bytesAt (Wifi.setFrameSubType m 0 type) 0 Wifi.WLAN_HDR_A3_LEN

def startFrame (hdr : List UInt8) : W Cursor := do
  store .frame 0 (List.replicate (WLANHDR_OFFSET + TXDESC_OFFSET) 0)
  put hdr ⟨TXDESC_OFFSET, 0⟩

def getWpsIe (len : ℕ) : W (Option Target) :=
  zoom (region .ies) (rtwGetWpsIe _FIXED_IE_LENGTH_ (uint ((len : ℤ) - _FIXED_IE_LENGTH_)) false)

def appendBuilt (wanted : Bool) (a : ApConf) (c : Cursor) : W Cursor :=
  if wanted then do
    let c ← put a.p2pIe.encode c
    put a.wfdIe.encode c
  else pure c

/-- `dump_mgntframe`, up to the driver that is stopped or whose device is gone. -/
def dumpMgntframe (a : ApConf) (c : Cursor) : Issue := if a.stopped then .leaked else .sent c

/-! ## `issue_beacon` -/

/-- `Primary Device Type` and `Device Name`. -/
def wpsAttrs (deviceName : List UInt8) : List UInt8 :=
  be16 WPS_ATTR_PRIMARY_DEV_TYPE ++ be16 0x0008 ++ be16 WPS_PDT_CID_MULIT_MEDIA ++ wpsOui ++ be16 WPS_PDT_SCID_MEDIA_SERVER ++
    be16 WPS_ATTR_DEVICE_NAME ++ be16 deviceName.length ++ deviceName

/-- The elements with two attributes more in the one for WPS. -/
def extendWps (a : ApConf) (len : ℕ) (wpsie : Target) (c : Cursor) : W Cursor := do
  let wpsOffset := uint wpsie.ptr
  let remainderIelen := uint ((len : ℤ) - wpsOffset - wpsie.size)
  let pframeWscie := c.pframe + wpsOffset
  let c ← copy .ies 0 (wpsOffset + wpsie.size) c
  let c ← put (wpsAttrs a.deviceName) c
  store .frame (pframeWscie + 1) [UInt8.ofNat (wpsie.size - 2 + (wpsAttrs a.deviceName).length)]
  copy .ies (wpsie.ptr + wpsie.size) remainderIelen c

/-- `update_hidden_ssid`; the copy goes to a lower address, from the front. -/
def updateHiddenSsid (ies : ℤ) (iesLen : ℕ) (hiddenSsidMode : ℕ) : W ℤ := do
  match ← zoom (region .frame) (rtwGetIe ies _SSID_IE_ iesLen) with
  | none => pure 0
  | some (ssidIe, ssidLenOri) =>
    if ssidLenOri = 0 then pure 0
    else if hiddenSsidMode = 1 then do
      let nextIe := ssidIe + 2 + ssidLenOri
      let remainLen := uint ((iesLen : ℤ) - (nextIe - ies))
      store .frame (ssidIe + 1) [0]
      memcpy .frame (ssidIe + 2) .frame nextIe remainLen
      pure (-ssidLenOri)
    else if hiddenSsidMode = 2 then do
      store .frame (ssidIe + 2) (List.replicate ssidLenOri 0)
      pure 0
    else pure 0

def hideRecord (a : ApConf) (len : ℕ) (c : Cursor) : W Cursor := do
  memcpy .frame c.pframe .ies 0 len
  let lenDiff ← updateHiddenSsid (c.pframe + _FIXED_IE_LENGTH_) (uint ((len : ℤ) - _FIXED_IE_LENGTH_)) a.hiddenSsidMode
  pure (c.on (len + lenDiff))

def beaconBody (a : ApConf) (len : ℕ) (c : Cursor) : W Cursor := do
  let wpsie ← getWpsIe len
  if a.go then
    match wpsie with
    | some wpsie => extendWps a len wpsie c
    | none => hideRecord a len c
  else hideRecord a len c

/-- `rtw_get_wps_attr_content` for the selected registrar, with at most so many passes; the content is copied to `sr`. -/
def readRegistrar (fuel : ℕ) (wpsIe : Target) : W Bool := do
  let s ← get
  match rtwGetWpsAttr (s .frame) wpsIe.ptr wpsIe.size WPS_ATTR_SELECTED_REGISTRAR false fuel with
  | none => pure false
  | some none => pure true
  | some (some attr) =>
    if attr.size = 0 then pure true
    else do
      memcpy .sr 0 .frame (attr.ptr + 4) (uint ((attr.size : ℤ) - 4))
      pure true

def selectedRegistrar (fuel : ℕ) (c : Cursor) : W Bool := do
  let ies : ℤ := TXDESC_OFFSET + Wifi.WLAN_HDR_A3_LEN + _FIXED_IE_LENGTH_
  match ← zoom (region .frame) (rtwGetWpsIe ies (uint (c.pktlen - Wifi.WLAN_HDR_A3_LEN - _FIXED_IE_LENGTH_)) false) with
  | none => pure true
  | some wpsIe => readRegistrar fuel wpsIe

def finishBeacon (a : ApConf) (c : Cursor) : W (Option Issue) := do
  let c ← appendBuilt a.go a c
  if 512 < c.pktlen + TXDESC_SIZE then pure (some .leaked) else pure (some (dumpMgntframe a c))

/-- `issue_beacon`; `none` when the search for the selected registrar has not come to an end. -/
def issueBeacon (a : ApConf) (fuel len : ℕ) : W (Option Issue) :=
  if !a.alloc then pure (some .nothing)
  else do
    let c ← startFrame (wlanhdr (Vector.replicate 6 0xff) a.myid a.macAddress 0 WIFI_BEACON)
    let c ← beaconBody a len c
    let ended ← selectedRegistrar fuel c
    if ended then finishBeacon a c else pure none

/-! ## `issue_probersp` -/

def copyIf (fits : Bool) (r : Area) (x : ℤ) (n : ℕ) (c : Cursor) : W Cursor := if fits then copy r x n c else pure c

/-- The elements with `wps_probe_resp_ie` in place of the one for WPS. -/
def replaceWps (a : ApConf) (len : ℕ) (c : Cursor) : W Cursor := do
  let pwpsIe ← getWpsIe len
  if a.wpsProbeRespIe then
    match pwpsIe with
    | none => copy .ies 0 len c
    | some pwpsIe => do
      let wpsOffset := uint pwpsIe.ptr
      let remainderIelen := uint ((len : ℤ) - wpsOffset - pwpsIe.size)
      let c ← copy .ies 0 wpsOffset c
      let wpsIelen ← peek (region .wps) 1
      let c ← copyIf (wpsOffset + wpsIelen.toNat + 2 ≤ MAX_IE_SZ) .wps 0 (wpsIelen.toNat + 2) c
      copyIf (wpsOffset + wpsIelen.toNat + 2 + remainderIelen ≤ MAX_IE_SZ) .ies (pwpsIe.ptr + pwpsIe.size) remainderIelen c
  else copy .ies 0 len c

/-- The SSID is that of `cur_network->Ssid`; all behind the header of its element is moved. -/
def restoreSsid (a : ApConf) (c : Cursor) : W Cursor := do
  let ies : ℤ := TXDESC_OFFSET + Wifi.WLAN_HDR_A3_LEN
  match ← zoom (region .frame) (rtwGetIe (ies + _FIXED_IE_LENGTH_) _SSID_IE_ (c.pframe - ies - _FIXED_IE_LENGTH_)) with
  | none => pure c
  | some (ssidIe, ssidIelen) =>
    if a.ssid.length = 0 then pure c
    else do
      let ssidIelenDiff := (a.ssid.length : ℤ) - ssidIelen
      let remainderIe := ssidIe + 2
      let remainderIelen := min (uint (c.pframe - remainderIe)) MAX_IE_SZ
      memcpy .buf 0 .frame remainderIe remainderIelen
      memcpy .frame (remainderIe + ssidIelenDiff) .buf 0 remainderIelen
      store .frame (ssidIe + 1) [UInt8.ofNat a.ssid.length]
      store .frame (ssidIe + 2) a.ssid
      pure (c.on ssidIelenDiff)

/-- `issue_probersp`. -/
def issueProbersp (a : ApConf) (da : Vector UInt8 6) (isValidP2pProbereq : Bool) (len : ℕ) : W Issue :=
  if !a.alloc then pure .nothing
  else do
    let c ← startFrame (wlanhdr da a.myid a.macAddress a.mgntSeq WIFI_PROBERSP)
    if MAX_IE_SZ < len then pure .leaked
    else do
      let c ← replaceWps a len c
      let c ← restoreSsid a c
      let c ← appendBuilt (a.go && isValidP2pProbereq) a c
      pure (dumpMgntframe a c)

/-! ## What should hold -/

/-- The buffers that are written are kept to. -/
def Stays : Touch Area → Prop
  | .byte .frame x => 0 ≤ x ∧ x < MAX_XMIT_EXTBUF_SZ
  | .byte .buf x => 0 ≤ x ∧ x < MAX_IE_SZ
  | .byte .sr x => x = 0
  | _ => True

def IsWps (e : Tlv) : Prop := Matches _VENDOR_SPECIFIC_IE_ (some wpsOui) e

instance decidableIsWps (e : Tlv) : Decidable (IsWps e) := inferInstanceAs (Decidable (Matches _ _ e))

/-- The elements with another in place of the first for WPS, if there is one that fits. -/
def updateWps (f : Tlv → Option Tlv) : List Tlv → Option (List Tlv)
  | [] => some []
  | e :: es => if IsWps e then (f e).map (· :: es) else (updateWps f es).map (e :: ·)

def extended (deviceName : List UInt8) (e : Tlv) : Option Tlv :=
  if h : (e.body ++ wpsAttrs deviceName).length < 256 then some ⟨e.id, e.body ++ wpsAttrs deviceName, h⟩ else none

/-- The SSID of a beacon: empty, zeroed or unchanged. -/
def hidden (mode : ℕ) (e : Tlv) : Tlv where
  id := e.id
  body := if e.id = _SSID_IE_ then if mode = 1 then [] else if mode = 2 then List.replicate e.body.length 0 else e.body else e.body
  short := by
    have hshort := e.short
    split_ifs
    · exact Nat.zero_lt_succ _
    · rw [List.length_replicate]
      exact hshort
    · exact hshort
    · exact hshort

def restored (a : ApConf) (e : Tlv) : Tlv where
  id := e.id
  body := if e.id = _SSID_IE_ then a.ssid else e.body
  short := by
    split_ifs
    · exact lt_of_le_of_lt a.ssidShort (by decide)
    · exact e.short

def built (wanted : Bool) (a : ApConf) : List Tlv := if wanted then [a.p2pIe, a.wfdIe] else []

def beaconElements (a : ApConf) (es : List Tlv) : Option (List Tlv) :=
  (if a.go then updateWps (extended a.deviceName) es else some es).map fun l => l.map (hidden a.hiddenSsidMode)

/-- The elements of the network in a probe response; `w` is the element in `wps_probe_resp_ie`. -/
def probeElements (a : ApConf) (w : Tlv) (es : List Tlv) : Option (List Tlv) :=
  (if a.wpsProbeRespIe then updateWps (fun _ => some w) es else some es).map fun l => l.map (restored a)

/-- The network is a list of elements with one SSID. -/
structure Network (a : ApConf) (fixed : List UInt8) (es : List Tlv) (w : Tlv) (len : ℕ) (s : Regions Area) : Prop where
  twelve : fixed.length = _FIXED_IE_LENGTH_
  bytes : bytesAt (s .ies) 0 len = fixed ++ encodeAll es
  small : len ≤ MAX_IE_SZ
  ssid : ∃ pre e post, es = pre ++ e :: post ∧ e.id = _SSID_IE_ ∧ e.body.length ≤ 32 ∧ ∀ x ∈ pre ++ post, x.id ≠ _SSID_IE_
  named : 0 < a.ssid.length
  mode : a.hiddenSsidMode ≤ 2
  wps : a.wpsProbeRespIe = true → IsWps w ∧ bytesAt (s .wps) 0 w.size = w.encode

/-- A frame in its buffer, with its length, and the fixed bytes and the elements behind its header. -/
structure Carries (fixed : List UInt8) (out : List Tlv) (c : Cursor) (t : Regions Area) : Prop where
  written : c.pframe = TXDESC_OFFSET + c.pktlen
  inside : c.pframe ≤ MAX_XMIT_EXTBUF_SZ
  pktlen : c.pktlen = Wifi.WLAN_HDR_A3_LEN + (fixed ++ encodeAll out).length
  body : bytesAt (t .frame) (TXDESC_OFFSET + Wifi.WLAN_HDR_A3_LEN) (fixed ++ encodeAll out).length = fixed ++ encodeAll out

/-- A frame with these elements is sent, or nothing is done. -/
def Issued (fixed : List UInt8) (out : Option (List Tlv)) (issue : Issue) (t : Regions Area) : Prop :=
  issue = .nothing ∨ ∃ c l, issue = .sent c ∧ out = some l ∧ Carries fixed l c t

/-- `issue_beacon` comes to an end, stays inside, and sends what it should or leaves nothing behind. -/
def BeaconIssued (a : ApConf) (fixed : List UInt8) (es : List Tlv) (len : ℕ) (s : Regions Area) : Prop :=
  ∃ fuel issue, Inside Stays (issueBeacon a fuel len) s ∧ ((issueBeacon a fuel len).run s).val = some issue ∧
    Issued fixed ((beaconElements a es).map (· ++ built a.go a)) issue ((issueBeacon a fuel len).run s).st

/-- The same for `issue_probersp`. -/
def ProberspIssued (a : ApConf) (da : Vector UInt8 6) (isValidP2pProbereq : Bool) (fixed : List UInt8) (es : List Tlv) (w : Tlv)
    (len : ℕ) (s : Regions Area) : Prop :=
  Inside Stays (issueProbersp a da isValidP2pProbereq len) s ∧
    Issued fixed ((probeElements a w es).map (· ++ built (a.go && isValidP2pProbereq) a))
      ((issueProbersp a da isValidP2pProbereq len).run s).val ((issueProbersp a da isValidP2pProbereq len).run s).st

/-! ## The element for WPS that `rtw_get_wps_ie` comes to -/

/-- A list around the first element that looks like one for WPS; `behind` is what follows in memory. -/
def splitWps (behind : List UInt8) : List Tlv → Option (List Tlv × Tlv × List Tlv)
  | [] => none
  | e :: es =>
    if LooksLike _VENDOR_SPECIFIC_IE_ (some wpsOui) e (encodeAll es ++ behind) then some ([], e, es)
    else (splitWps behind es).map fun t => (e :: t.1, t.2)

section
variable {m : Mem} {behind : List UInt8} {es pre post : List Tlv} {e : Tlv}

theorem rtwGetWpsIe_list {start : ℤ}
    (hbuf : bytesAt m start (encodeAll es ++ behind).length = encodeAll es ++ behind) (hbehind : 4 ≤ behind.length) :
    ((rtwGetWpsIe start (encodeAll es).length false).run m).val =
      (splitWps behind es).map fun t => ⟨start + (encodeAll t.1).length, t.2.1.size, []⟩ := by
  induction es generalizing start with
  | nil => rfl
  | cons e es ih =>
    have hfour : ∀ o ∈ some wpsOui, o.length ≤ behind.length := fun o ho => Option.some.inj ho ▸ hbehind
    have hcons := rtwGetIeEx_cons _VENDOR_SPECIFIC_IE_ hbuf hfour
    have hsearch : rtwGetWpsIe start (encodeAll (e :: es)).length false =
        rtwGetIeEx start (encodeAll (e :: es)).length _VENDOR_SPECIFIC_IE_ (some wpsOui) false := rfl
    rw [hsearch, hcons, splitWps]
    by_cases hlooks : LooksLike _VENDOR_SPECIFIC_IE_ (some wpsOui) e (encodeAll es ++ behind)
    · rw [if_pos hlooks, if_pos hlooks, Option.map_some, encodeAll_nil, List.length_nil, Nat.cast_zero, add_zero]
    · rw [encodeAll_cons, List.append_assoc] at hbuf
      have hrest := (bytesAt_eq_append.mp hbuf).2.2
      rw [encode_length] at hrest
      have htail : ((rtwGetIeEx (start + e.size) (encodeAll es).length _VENDOR_SPECIFIC_IE_ (some wpsOui) false).run m).val =
          (splitWps behind es).map fun t => ⟨start + e.size + (encodeAll t.1).length, t.2.1.size, []⟩ := ih hrest
      rw [if_neg hlooks, if_neg hlooks, htail, Option.map_map]
      refine congrArg (fun f => Option.map f (splitWps behind es)) (funext fun t => ?_)
      rw [Function.comp_apply, encodeAll_cons, List.length_append, encode_length]
      push_cast
      rw [add_assoc]

theorem splitWps_some (h : splitWps behind es = some (pre, e, post)) : es = pre ++ e :: post ∧
    LooksLike _VENDOR_SPECIFIC_IE_ (some wpsOui) e (encodeAll post ++ behind) ∧ ∀ x ∈ pre, ¬IsWps x := by
  induction es generalizing pre with
  | nil => cases h
  | cons x es ih =>
    rw [splitWps] at h
    split at h
    next hlooks =>
      obtain ⟨rfl, rfl, rfl⟩ : [] = pre ∧ x = e ∧ es = post := by simpa using h
      exact ⟨rfl, hlooks, fun x hx => absurd hx List.not_mem_nil⟩
    next hlooks =>
      obtain ⟨⟨pre', e', post'⟩, hsplit, heq⟩ := Option.map_eq_some_iff.mp h
      obtain ⟨rfl, rfl, rfl⟩ : x :: pre' = pre ∧ e' = e ∧ post' = post := by simpa using heq
      obtain ⟨rfl, hfound, hpre⟩ := ih hsplit
      exact ⟨rfl, hfound, List.forall_mem_cons.mpr ⟨fun hwps => hlooks (LooksLike.of_matches hwps), hpre⟩⟩

theorem splitWps_none (h : splitWps behind es = none) : ∀ x ∈ es, ¬IsWps x := by
  induction es with
  | nil => exact fun x hx => absurd hx List.not_mem_nil
  | cons x es ih =>
    rw [splitWps] at h
    split at h
    · cases h
    next hlooks =>
      exact List.forall_mem_cons.mpr ⟨fun hwps => hlooks (LooksLike.of_matches hwps), ih (Option.map_eq_none_iff.mp h)⟩

theorem short_of_looks {rest : List UInt8} (hlooks : LooksLike _VENDOR_SPECIFIC_IE_ (some wpsOui) e rest) (hnot : ¬IsWps e) :
    e.body.length < 4 := by
  by_contra hlong
  exact hnot (hlooks.matches fun o ho => Option.some.inj ho ▸ Nat.not_lt.mp hlong)

theorem IsWps.id (h : IsWps e) : e.id = _VENDOR_SPECIFIC_IE_ := h.1

theorem IsWps.length (h : IsWps e) : 4 ≤ e.body.length := (h.2 wpsOui rfl).length_le

theorem vendor_ne_ssid (h : e.id = _VENDOR_SPECIFIC_IE_) : e.id ≠ _SSID_IE_ := by
  rw [h]
  decide

end

/-! ## The element that is changed -/

section
variable {f : Tlv → Option Tlv} {es pre post : List Tlv} {e : Tlv}

theorem updateWps_append (hpre : ∀ x ∈ pre, ¬IsWps x) (es : List Tlv) :
    updateWps f (pre ++ es) = (updateWps f es).map (pre ++ ·) := by
  induction pre with
  | nil => exact Option.map_id'.symm
  | cons x pre ih =>
    obtain ⟨hx, hpre⟩ := List.forall_mem_cons.mp hpre
    rw [List.cons_append, updateWps, if_neg hx, ih hpre, Option.map_map]
    rfl

theorem updateWps_none (hes : ∀ x ∈ es, ¬IsWps x) : updateWps f es = some es := by
  have happend := @updateWps_append f es hes []
  rw [List.append_nil] at happend
  rw [happend, updateWps, Option.map_some, List.append_nil]

theorem updateWps_found (hpre : ∀ x ∈ pre, ¬IsWps x) (he : IsWps e) :
    updateWps f (pre ++ e :: post) = (f e).map fun x => pre ++ x :: post := by
  rw [updateWps_append hpre, updateWps, if_pos he, Option.map_map]
  rfl

theorem updateWps_missed (hpre : ∀ x ∈ pre, ¬IsWps x) (he : ¬IsWps e) :
    updateWps f (pre ++ e :: post) = (updateWps f post).map fun l => pre ++ e :: l := by
  rw [updateWps_append hpre, updateWps, if_neg he, Option.map_map]
  rfl

end

/-! ## Hidden and restored SSIDs -/

section
variable {a : ApConf} {e : Tlv} {es pre post : List Tlv}

theorem hidden_other (mode : ℕ) (he : e.id ≠ _SSID_IE_) : hidden mode e = e := by
  obtain ⟨id, body, short⟩ := e
  simp only [hidden]
  congr 1
  exact if_neg he

theorem restored_other (he : e.id ≠ _SSID_IE_) : restored a e = e := by
  obtain ⟨id, body, short⟩ := e
  simp only [restored]
  congr 1
  exact if_neg he

theorem map_hidden_other (mode : ℕ) (hes : ∀ x ∈ es, x.id ≠ _SSID_IE_) : es.map (hidden mode) = es := by
  rw [List.map_congr_left fun x hx => hidden_other mode (hes x hx), List.map_id']

theorem map_restored_other (hes : ∀ x ∈ es, x.id ≠ _SSID_IE_) : es.map (restored a) = es := by
  rw [List.map_congr_left fun x hx => restored_other (hes x hx), List.map_id']

theorem hidden_length_le (mode : ℕ) (e : Tlv) : (hidden mode e).body.length ≤ e.body.length := by
  simp only [hidden]
  split_ifs
  · exact Nat.zero_le _
  · rw [List.length_replicate]
  · exact le_rfl
  · exact le_rfl

theorem wpsAttrs_length (name : List UInt8) : (wpsAttrs name).length = 16 + name.length := by
  simp [wpsAttrs, AssocReq.be16, wpsOui]
  omega

/-! ## The elements of a beacon -/

/-- What `issue_beacon` makes of the elements around the one it takes for WPS. -/
def extendedBytes (a : ApConf) (pre : List Tlv) (e : Tlv) (post : List Tlv) : List UInt8 :=
  encodeAll pre ++ e.id :: UInt8.ofNat (e.body.length + (wpsAttrs a.deviceName).length) :: (e.body ++ wpsAttrs a.deviceName) ++
    encodeAll post

theorem extendedBytes_eq (h : (e.body ++ wpsAttrs a.deviceName).length < 256) :
    extendedBytes a pre e post = encodeAll (pre ++ ⟨e.id, e.body ++ wpsAttrs a.deviceName, h⟩ :: post) := by
  rw [extendedBytes, encodeAll_append, encodeAll_cons, encode, List.length_append, List.append_assoc]

/-- They are the elements of the network in a beacon just when it is the one for WPS, has room, and no SSID is hidden. -/
theorem extendedBytes_iff {rest : List UInt8} (hgo : a.go = true) (hpre : ∀ x ∈ pre, ¬IsWps x)
    (hlooks : LooksLike _VENDOR_SPECIFIC_IE_ (some wpsOui) e rest) :
    (∃ l, beaconElements a (pre ++ e :: post) = some l ∧ encodeAll l = extendedBytes a pre e post) ↔
      IsWps e ∧ (e.body ++ wpsAttrs a.deviceName).length < 256 ∧
        (pre ++ e :: post).map (hidden a.hiddenSsidMode) = pre ++ e :: post := by
  have hother : ∀ x : Tlv, x.id = e.id → hidden a.hiddenSsidMode x = x := fun x hx =>
    hidden_other _ (vendor_ne_ssid (hx.trans hlooks.1))
  rw [beaconElements, if_pos hgo]
  by_cases hwps : IsWps e
  · rw [updateWps_found hpre hwps]
    by_cases hroom : (e.body ++ wpsAttrs a.deviceName).length < 256
    · have hsame : ∀ x : Tlv, x.id = e.id → ((pre ++ x :: post).map (hidden a.hiddenSsidMode) = pre ++ x :: post ↔
          pre.map (hidden a.hiddenSsidMode) = pre ∧ post.map (hidden a.hiddenSsidMode) = post) := by
        intro x hx
        rw [List.map_append, List.map_cons, hother x hx]
        constructor
        · intro h
          obtain ⟨hhead, htail⟩ := List.append_inj h (List.length_map _)
          exact ⟨hhead, (List.cons.inj htail).2⟩
        · rintro ⟨hhead, htail⟩
          rw [hhead, htail]
      rw [extended, dif_pos hroom, Option.map_some, Option.map_some, extendedBytes_eq hroom, hsame e rfl]
      constructor
      · rintro ⟨l, hl, hbytes⟩
        obtain rfl := Option.some.inj hl
        exact ⟨hwps, hroom, (hsame ⟨e.id, e.body ++ wpsAttrs a.deviceName, hroom⟩ rfl).mp (encodeAll_injective hbytes)⟩
      · rintro ⟨-, -, h⟩
        exact ⟨_, rfl, congrArg encodeAll ((hsame ⟨e.id, e.body ++ wpsAttrs a.deviceName, hroom⟩ rfl).mpr h)⟩
    · rw [extended, dif_neg hroom]
      exact iff_of_false (fun ⟨l, hl, _⟩ => Option.some_ne_none l hl.symm) fun h => hroom h.2.1
  · -- the length of the element tells it from the one that should be there
    refine iff_of_false ?_ fun h => hwps h.1
    rintro ⟨l, hl, hbytes⟩
    have hshort := short_of_looks hlooks hwps
    have hname := a.nameShort
    have hattrs := wpsAttrs_length a.deviceName
    have hmax : WPS_MAX_DEVICE_NAME_LEN = 32 := rfl
    have hroom : (e.body ++ wpsAttrs a.deviceName).length < 256 := by
      rw [List.length_append]
      omega
    rw [updateWps_missed hpre hwps, Option.map_map] at hl
    obtain ⟨post', -, rfl⟩ := Option.map_eq_some_iff.mp hl
    rw [extendedBytes_eq hroom, Function.comp_apply, List.map_append, List.map_cons, hother e rfl] at hbytes
    have htail := (List.append_inj (encodeAll_injective hbytes) (List.length_map _)).2
    have hbody := congrArg (fun t : Tlv => t.body.length) (List.cons.inj htail).1
    simp only [List.length_append] at hbody
    omega

end

end ApFrame

end Rtl8723au
