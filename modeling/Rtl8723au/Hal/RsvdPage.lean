import Rtl8723au.Library.RegionFrame
import Rtl8723au.Mlme.AssocReq

/-! The reserved pages of `hal/rtl8723a_cmd.c`: `SetFwRsvdPagePkt` puts six packets into one buffer, for the firmware to
send while the driver sleeps. -/
namespace Rtl8723au
namespace RsvdPage
open AccessM Regions
set_option autoImplicit false

def TXDESC_SIZE : ℕ := 32
def PACKET_OFFSET_SZ : ℕ := 8
def TXDESC_OFFSET : ℕ := TXDESC_SIZE + PACKET_OFFSET_SZ
def MAX_XMIT_EXTBUF_SZ : ℕ := 1536

def WIFI_FW_ADHOC_STATE : BitVec 32 := 0x01
def WIFI_FW_AP_STATE : BitVec 32 := 0x03

def WIFI_PROBERSP : ℕ := 0x50
def WIFI_BEACON : ℕ := 0x80
def WIFI_PSPOLL : ℕ := 0xa4
def _TO_DS_ : ℕ := 0x0100
def _FROM_DS_ : ℕ := 0x0200
def _PWRMGT_ : ℕ := 0x1000

def _IBSS_PARA_IE_ : UInt8 := 6

def Ndis802_11Infrastructure : ℕ := 1
def Ndis802_11APMode : ℕ := 4

/-! ## The memory -/

/-- `ReservedPagePacket`, the arrays of the network that is joined, and the buffer of the frame that is sent. -/
inductive RsvdRegion
  | page
  | ies
  | ssid
  | supportedRates
  | dsConfig
  | frame
  deriving DecidableEq

/-- What the packets are built from beside the arrays; `state` is that of `mlmext_info`. -/
structure RsvdPageInfo where
  network : JoinedNetwork
  dsConfig : ℕ := 1
  infrastructureMode : ℕ := 0
  state : BitVec 32 := 0
  aid : ℕ := 0
  myid : MacAddr := Vector.replicate 6 0

/-- The answers of the allocators, and what the stack holds where the six lengths are put. -/
structure RsvdPageEnv where
  kzalloc : Bool := true
  alloc_mgtxmitframe : Bool := true
  stale : ℕ → BitVec 32 := fun _ => 0

/-- The sizes of the arrays, of `IEs` as it is given. -/
def size (iesSize : ℕ) : RsvdRegion → ℕ
  | .page => 1000
  | .ies => iesSize
  | .ssid => 32
  | .supportedRates => 16
  | .dsConfig => 4
  | .frame => MAX_XMIT_EXTBUF_SZ

/-- The buffer is zeroed when it is allocated. -/
def start (a : RsvdPageInfo) : Regions RsvdRegion
  | .page => fun _ => 0
  | .ies => a.network.ies
  | .ssid => fun x => a.network.ssid.toList.getD x.toNat 0
  | .supportedRates => fun x => a.network.supportedRates.toList.getD x.toNat 0
  | .dsConfig => fun x => (leBytes a.dsConfig 4).getD x.toNat 0
  | .frame => fun _ => 0

abbrev P := R RsvdRegion

/-! ## The headers -/

/-- `*(unsigned short *)(pbuf) |= cpu_to_le16(v)`. -/
def orLe16 (x : ℤ) (v : ℕ) : P Unit := do
  let w ← loadLe .page x 2
  store .page x (leBytes (w ||| v) 2)

/-- `SetFrameSubType`. -/
def setFrameSubType (x : ℤ) (type : ℕ) : P Unit := do
  let w ← loadLe .page x 2
  store .page x (leBytes (w &&& 0xff03) 2)
  orLe16 x type

/-- `SetSeqNum`. -/
def setSeqNum (x : ℤ) (num : ℕ) : P Unit := do
  let w ← loadLe .page (x + 22) 2
  store .page (x + 22) (leBytes (w &&& 0x000f ||| 0xfff0 &&& num <<< 4) 2)

/-- `SetDuration`. -/
def setDuration (x : ℤ) (dur : ℕ) : P Unit := store .page (x + 2) (leBytes (0xffff &&& dur) 2)

def clearFctrl (x : ℤ) : P Unit := store .page x [0, 0]

def setAddrs (x : ℤ) (addr1 addr2 addr3 : MacAddr) : P Unit := do
  store .page (x + 4) addr1.toList
  store .page (x + 10) addr2.toList
  store .page (x + 16) addr3.toList

/-! ## The packets -/

/-- `rtw_set_ie` at the end of a frame of `frlen` bytes that starts at `x`; it gives the new length. -/
def rtwSetIe (x : ℤ) (index : UInt8) (source : List UInt8) (frlen : ℕ) : P ℕ := do
  store .page (x + frlen) [index, UInt8.ofNat source.length]
  store .page (x + frlen + 2) source
  pure (frlen + (source.length + 2))

/-- The loop of `rtw_get_rateset_len`, which ends at the index 13 at the latest. -/
def ratesetLenLoop : ℕ → ℕ → P ℕ
  | 0, i => pure i
  | fuel + 1, i => do
    let rate ← peek (region .supportedRates) i
    if rate = 0 then pure i
    else if 12 < i then pure i
    else ratesetLenLoop fuel (i + 1)

/-- `rtw_get_rateset_len`. -/
def rtwGetRatesetLen : P ℕ := ratesetLenLoop 14 0

def setAtim (a : RsvdPageInfo) (x : ℤ) (pktlen : ℕ) : P ℕ :=
  if a.state &&& 0x03 = WIFI_FW_ADHOC_STATE then rtwSetIe x _IBSS_PARA_IE_ [0, 0] pktlen else pure pktlen

def setExtRates (x : ℤ) (rateLen pktlen : ℕ) : P ℕ :=
  if 8 < rateLen then do
    let rates ← load .supportedRates 8 (rateLen - 8)
    rtwSetIe x _EXT_SUPPORTEDRATES_IE_ rates pktlen
  else pure pktlen

/-- The elements of `ConstructBeacon` for any mode but that of an access point. -/
def adhocElements (a : RsvdPageInfo) (x : ℤ) (pktlen : ℕ) : P ℕ := do
  let ssid ← load .ssid 0 a.network.ssidLength
  let pktlen ← rtwSetIe x _SSID_IE_ ssid pktlen
  let rateLen ← rtwGetRatesetLen
  let rates ← load .supportedRates 0 (if 8 < rateLen then 8 else rateLen)
  let pktlen ← rtwSetIe x _SUPPORTEDRATES_IE_ rates pktlen
  let dsConfig ← load .dsConfig 0 1
  let pktlen ← rtwSetIe x _DSSET_IE_ dsConfig pktlen
  let pktlen ← setAtim a x pktlen
  setExtRates x rateLen pktlen

/-- The elements for an access point: the length that is copied counts the header too, which is there already. -/
def apElements (a : RsvdPageInfo) (x : ℤ) (pktlen : ℕ) : P ℕ := do
  let pktlen := pktlen + (a.network.ieLength - _FIXED_IE_LENGTH_)
  memcpy .page (x + 36) .ies _FIXED_IE_LENGTH_ pktlen
  pure pktlen

def bcnElements (a : RsvdPageInfo) (x : ℤ) (pktlen : ℕ) : P ℕ :=
  if a.state &&& 0x03 = WIFI_FW_AP_STATE then apElements a x pktlen else adhocElements a x pktlen

/-- `ConstructBeacon`; it leaves the length alone when the beacon is too large. -/
def constructBeacon (a : RsvdPageInfo) (x : ℤ) : P (Option ℕ) := do
  clearFctrl x
  setAddrs x bcAddr a.myid a.network.macAddress
  setSeqNum x 0
  setFrameSubType x WIFI_BEACON
  memcpy .page (x + 32) .ies 8 2
  memcpy .page (x + 34) .ies 10 2
  let pktlen ← bcnElements a x 36
  pure (if 512 < pktlen + TXDESC_SIZE then none else some pktlen)

/-- `ConstructPSPoll`. -/
def constructPSPoll (a : RsvdPageInfo) (x : ℤ) : P (Option ℕ) := do
  clearFctrl x
  orLe16 x _PWRMGT_
  setFrameSubType x WIFI_PSPOLL
  setDuration x (a.aid ||| 0xc000)
  store .page (x + 4) a.network.macAddress.toList
  store .page (x + 10) a.myid.toList
  pure (some 16)

/-- The direction and the addresses of a null frame. -/
def nullAddrs (a : RsvdPageInfo) (x : ℤ) (staAddr : MacAddr) : P Unit :=
  if a.infrastructureMode = Ndis802_11Infrastructure then do
    orLe16 x _TO_DS_
    setAddrs x a.network.macAddress a.myid staAddr
  else if a.infrastructureMode = Ndis802_11APMode then do
    orLe16 x _FROM_DS_
    setAddrs x staAddr a.network.macAddress a.myid
  else setAddrs x staAddr a.myid a.network.macAddress

def forcePowerSave (x : ℤ) (bForcePowerSave : Bool) : P Unit :=
  if bForcePowerSave then orLe16 x _PWRMGT_ else pure ()

/-- `ConstructNullFunctionData`. -/
def constructNullFunctionData (a : RsvdPageInfo) (x : ℤ) (staAddr : MacAddr) (bQoS : Bool) (ac eosp : ℕ)
    (bForcePowerSave : Bool) : P (Option ℕ) := do
  clearFctrl x
  forcePowerSave x bForcePowerSave
  nullAddrs a x staAddr
  setSeqNum x 0
  if bQoS then do
    setFrameSubType x Wifi.WIFI_QOS_DATA_NULL
    orLe16 (x + 24) (ac &&& 0xf)
    orLe16 (x + 24) ((eosp &&& 1) <<< 4)
    pure (some Wifi.WLAN_HDR_A3_QOS_LEN)
  else do
    setFrameSubType x Wifi.WIFI_DATA_NULL
    pure (some Wifi.WLAN_HDR_A3_LEN)

/-- `ConstructProbeRsp`; it leaves the length alone when there are too many elements. -/
def constructProbeRsp (a : RsvdPageInfo) (x : ℤ) (staAddr : MacAddr) : P (Option ℕ) := do
  clearFctrl x
  setAddrs x staAddr a.myid a.network.macAddress
  setSeqNum x 0
  setFrameSubType x WIFI_PROBERSP
  if MAX_IE_SZ < a.network.ieLength then pure none
  else do
    memcpy .page (x + 24) .ies 0 a.network.ieLength
    pure (some (24 + a.network.ieLength))

/-- The words of the descriptor, before its checksum. -/
def fakeTxdescWords (bufferLen : ℕ) (isPsPoll isBTQosNull : Bool) : List ℕ :=
  [0x8c000000 ||| (TXDESC_SIZE <<< 16 &&& 0x00ff0000) ||| (bufferLen &&& 0x0000ffff),
    (0x12 <<< 8 &&& 0x00001f00) ||| (if isPsPoll then 0x00100000 else 0),
    if isBTQosNull then 0x00800000 else 0,
    if isPsPoll then 0 else 0x80000000,
    (if isPsPoll then 0 else 0x00000080) ||| 0x00000100, 0, 0, 0]

/-- `rtl8723a_cal_txdesc_chksum`. -/
def calTxdescChksum (words : List ℕ) : ℕ := words.foldl (fun sum w => sum ^^^ (w % 2 ^ 16) ^^^ (w / 2 ^ 16)) 0

def fakeTxdesc (bufferLen : ℕ) (isPsPoll isBTQosNull : Bool) : List UInt8 :=
  let words := fakeTxdescWords bufferLen isPsPoll isBTQosNull
  (words.set 7 (calTxdescChksum words)).flatMap (leBytes · 4)

/-- `rtl8723a_fill_fake_txdesc`. -/
def fillFakeTxdesc (pDesc : ℤ) (bufferLen : ℕ) (isPsPoll isBTQosNull : Bool) : P Unit := do
  store .page pDesc (List.replicate TXDESC_SIZE 0)
  store .page pDesc (fakeTxdesc bufferLen isPsPoll isBTQosNull)

/-! ## The pages -/

/-- `PageNum_128`. -/
def pageNum128 (len : ℕ) : ℕ := len / 128 + if len % 128 = 0 then 0 else 1

/-- `PageNum` and `BufIndex`. -/
structure Cursor where
  pageNum : ℕ := 0
  bufIndex : ℕ := TXDESC_OFFSET

/-- `PageNeed` for a packet of `len` bytes. -/
def pageNeed (len : ℕ) : ℕ := pageNum128 ((TXDESC_SIZE + len) % 2 ^ 32) % 2 ^ 8

def Cursor.pass (c : Cursor) (need : ℕ) : Cursor where
  pageNum := (c.pageNum + need) % 2 ^ 8
  bufIndex := (c.bufIndex + need * 128) % 2 ^ 16

/-- Two pages are reserved for the beacon at least. -/
def bcnPageNeed (len : ℕ) : ℕ := if pageNeed len = 1 then pageNeed len + 1 else pageNeed len

/-- Where a packet starts, the length that its builder has set, if it has, and the one that the driver goes by; and the
buffer as it was left then. -/
structure Packet where
  bufIndex : ℕ
  set : Option ℕ
  length : ℕ
  built : Mem

/-- `_RSVDPAGE_LOC`. -/
structure RsvdPageLoc where
  locProbeRsp : ℕ
  locPsPoll : ℕ
  locNullData : ℕ
  locQosNull : ℕ
  locBTQosNull : ℕ

/-- The beacon; its descriptor is filled in where the hardware keeps it. -/
def putBeacon (a : RsvdPageInfo) (stale : ℕ) : P (Packet × Cursor) := do
  let c : Cursor := {}
  let set ← constructBeacon a c.bufIndex
  let s ← get
  let len := set.getD stale
  pure (⟨c.bufIndex, set, len, s .page⟩, c.pass (bcnPageNeed len))

/-- A packet at the cursor with its descriptor, and the cursor behind it. -/
def put (c : Cursor) (construct : ℤ → P (Option ℕ)) (stale : ℕ) (isPsPoll isBTQosNull : Bool) : P (Packet × Cursor) := do
  let set ← construct c.bufIndex
  let len := set.getD stale
  fillFakeTxdesc ((c.bufIndex : ℤ) - TXDESC_SIZE) len isPsPoll isBTQosNull
  let s ← get
  pure (⟨c.bufIndex, set, len, s .page⟩, c.pass (pageNeed len))

/-- What `SetFwRsvdPagePkt` leaves: the packets, what the firmware is told, and the frame that is sent. -/
structure Filled where
  packets : List Packet
  rsvdPageLoc : RsvdPageLoc
  sent : Option (List UInt8)

/-- The frame that takes the image, if there is one. -/
def send (env : RsvdPageEnv) (totalPacketLen : ℕ) : P (Option (List UInt8)) :=
  if env.alloc_mgtxmitframe then do
    memcpy .frame 0 .page 0 totalPacketLen
    let s ← get
    pure (some ((List.range totalPacketLen).map fun k : ℕ => s .frame k))
  else pure none

/-- `SetFwRsvdPagePkt` behind its allocation. -/
def fillRsvdPage (a : RsvdPageInfo) (env : RsvdPageEnv) : P Filled := do
  let bssid := a.network.macAddress
  let (beacon, c₂) ← putBeacon a (env.stale 0).toNat
  let (psPoll, c₃) ← put c₂ (constructPSPoll a) (env.stale 1).toNat true false
  let (nullData, c₄) ← put c₃ (constructNullFunctionData a · bssid false 0 0 false) (env.stale 2).toNat false false
  let (probeRsp, c₅) ← put c₄ (constructProbeRsp a · bssid) (env.stale 3).toNat false false
  let (qosNull, c₆) ← put c₅ (constructNullFunctionData a · bssid true 0 0 false) (env.stale 4).toNat false false
  let (btQosNull, _) ← put c₆ (constructNullFunctionData a · bssid true 0 0 false) (env.stale 5).toNat false true
  let sent ← send env (c₆.bufIndex + btQosNull.length)
  pure
    { packets := [beacon, psPoll, nullData, probeRsp, qosNull, btQosNull]
      rsvdPageLoc := ⟨c₄.pageNum, c₂.pageNum, c₃.pageNum, c₅.pageNum, c₆.pageNum⟩
      sent }

/-- `SetFwRsvdPagePkt`. -/
def setFwRsvdPagePkt (a : RsvdPageInfo) (env : RsvdPageEnv) : P (Option Filled) :=
  if env.kzalloc then some <$> fillRsvdPage a env else pure none

/-! ## What should hold -/

/-- The page in which the descriptor of a packet starts, behind the bytes in front of the first one. -/
def Packet.page (p : Packet) : ℕ := (p.bufIndex - TXDESC_OFFSET) / 128

/-- The pages of a packet with its descriptor. -/
def Packet.pages (p : Packet) : ℕ := pageNum128 (TXDESC_SIZE + p.length)

/-- The packet's descriptor stands in front of it. -/
def Packet.Described (p : Packet) (kind : Bool × Bool) : Prop :=
  ∀ k < TXDESC_SIZE, p.built (p.bufIndex - TXDESC_SIZE + (k : ℕ)) = (fakeTxdesc p.length kind.1 kind.2).getD k 0

/-- Which of the packets behind the beacon is the one for polling, and which the one for Bluetooth. -/
def kinds : List (Bool × Bool) := [(true, false), (false, false), (false, false), (false, false), (false, true)]

/-- An image with six packets in pages of their own, as they were built, and the pages that the firmware is told. -/
structure WellPlaced (f : Filled) : Prop where
  described : List.Forall₂ Packet.Described f.packets.tail kinds
  initialised : ∀ p ∈ f.packets, p.set.isSome
  six : f.packets.length = 6
  aligned : ∀ p ∈ f.packets, p.bufIndex = TXDESC_OFFSET + 128 * p.page
  apart : f.packets.Pairwise fun p q => p.page + p.pages ≤ q.page
  kept : ∀ image, f.sent = some image → ∀ p ∈ f.packets, p.bufIndex + p.length ≤ image.length ∧
    ∀ x : ℕ, p.bufIndex - TXDESC_SIZE ≤ x → x < p.bufIndex + p.length → image.getD x 0 = p.built x
  located : [f.rsvdPageLoc.locPsPoll, f.rsvdPageLoc.locNullData, f.rsvdPageLoc.locProbeRsp, f.rsvdPageLoc.locQosNull,
    f.rsvdPageLoc.locBTQosNull] = f.packets.tail.map Packet.page

/-- No access outside its array, and an image that is well placed. -/
structure Sound (iesSize : ℕ) (a : RsvdPageInfo) (env : RsvdPageEnv) : Prop where
  inside : Inside (Fits (size iesSize)) (setFwRsvdPagePkt a env) (start a)
  placed : ∀ f, ((setFwRsvdPagePkt a env).run (start a)).val = some f → WellPlaced f

end RsvdPage

end Rtl8723au
