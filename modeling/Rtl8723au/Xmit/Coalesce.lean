import Rtl8723au.Security.Michael
import Rtl8723au.Security.SwEncrypt

/-! `rtw_xmitframe_coalesce` of `core/rtw_xmit.c`: the MPDUs of a packet are laid out one behind the
other in the buffer, each with a gap for its descriptor, then the Michael code is added and the whole
is encrypted. The protection against collisions is left out. -/
namespace Rtl8723au
open Mem Wifi Security
set_option autoImplicit false

/-! ## The IV -/

/-- `dot11txpn._byte_.TSCk`. -/
def tsc (pn : UInt64) (k : ℕ) : UInt8 := (pn >>> UInt64.ofNat (8 * k)).toUInt8

/-- `dot11txpn.val == last ? 0 : dot11txpn.val + 1`. -/
def nextPn (last pn : UInt64) : UInt64 := if pn = last then 0 else pn + 1

def keyidBits (keyidx : ℕ) : UInt8 := UInt8.ofNat ((keyidx &&& 0x3) <<< 6)

/-- The bytes of `WEP_IV`. -/
def wepIv (iv : Vector UInt8 18) (pn : UInt64) (keyidx : ℕ) : Vector UInt8 18 :=
  (((iv.set 0 (tsc pn 0)).set 1 (tsc pn 1)).set 2 (tsc pn 2)).set 3 (keyidBits keyidx)

/-- The bytes of `TKIP_IV`. -/
def tkipIv (iv : Vector UInt8 18) (pn : UInt64) (keyidx : ℕ) : Vector UInt8 18 :=
  let iv := (iv.set 0 (tsc pn 1)).set 1 ((tsc pn 1 ||| 0x20) &&& 0x7f)
  let iv := (iv.set 2 (tsc pn 0)).set 3 (0x20 ||| keyidBits keyidx)
  let iv := (iv.set 4 (tsc pn 2)).set 5 (tsc pn 3)
  (iv.set 6 (tsc pn 4)).set 7 (tsc pn 5)

/-- The bytes of `AES_IV`. -/
def aesIv (iv : Vector UInt8 18) (pn : UInt64) (keyidx : ℕ) : Vector UInt8 18 :=
  let iv := (iv.set 0 (tsc pn 0)).set 1 (tsc pn 1)
  let iv := (iv.set 2 0).set 3 (0x20 ||| keyidBits keyidx)
  let iv := (iv.set 4 (tsc pn 2)).set 5 (tsc pn 3)
  (iv.set 6 (tsc pn 4)).set 7 (tsc pn 5)

/-- The `switch` that writes `pattrib->iv` and counts `dot11txpn` on. -/
def writeIv (a : PktAttrib) (pn : UInt64) : Vector UInt8 18 × UInt64 :=
  let keyidx := if isMulticastEtherAddr a.ra then a.keyIdx else 0
  match a.encrypt with
  | 0x1 | 0x5 => (wepIv a.iv pn a.keyIdx, nextPn 0xffffff pn)
  | 0x2 => (tkipIv a.iv pn keyidx, nextPn 0xffffffffffff pn)
  | 0x4 => (aesIv a.iv pn keyidx, nextPn 0xffffffffffff pn)
  | _ => (a.iv, pn)

/-! ## The LLC header -/

/-- `rtw_put_snap`. -/
def rtwPutSnap (hProto : ℕ) : List UInt8 :=
  let oui : UInt8 := if hProto = 0x8137 ∨ hProto = 0x80f3 then 0xf8 else 0x00
  [0xaa, 0xaa, 0x03, 0x00, 0x00, oui, UInt8.ofNat (hProto / 256), UInt8.ofNat hProto]

/-! ## The loop -/

/-- An MPDU as it is laid out, noted when it is written. -/
structure Mpdu where
  start : ℤ
  iv : List UInt8
  llc : List UInt8
  data : List UInt8
  icv : List UInt8

def Mpdu.body (u : Mpdu) : List UInt8 := u.iv ++ u.llc ++ u.data ++ u.icv

/-- The locals of `rtw_xmitframe_coalesce`, with the MPDUs written so far. -/
structure Frag where
  padapter : RtwAdapter
  pattrib : PktAttrib
  mem : Mem
  pktfile : List UInt8
  frgInx : ℕ
  memStart : ℤ
  pframe : ℤ
  mpdus : List Mpdu

def RtwAdapter.setTxpn (padapter : RtwAdapter) (psta : StaId) (pn : UInt64) : RtwAdapter :=
  padapter.setInfo psta { padapter.staInfo psta with dot11txpn := pn }

section Loop
variable (psta : StaId)

/-- The IV of the next MPDU; without one the `switch` is not reached. -/
def fragIv (s : Frag) : Frag :=
  if s.pattrib.ivLen ≠ 0 then
    let r := writeIv s.pattrib (s.padapter.staInfo psta).dot11txpn
    { s with padapter := s.padapter.setTxpn psta r.2, pattrib := { s.pattrib with iv := r.1 } }
  else s

/-- `llc_sz` bytes; only the first MPDU has an LLC header. -/
def fragLlc (s : Frag) : List UInt8 := if s.frgInx = 0 then rtwPutSnap s.pattrib.etherType else []

/-- Room for the ICV, which software encryption overwrites. -/
def fragIcv (s : Frag) : List UInt8 :=
  if s.pattrib.icvLen > 0 ∧ s.pattrib.bswenc then s.pattrib.icv.toList.take s.pattrib.icvLen else []

/-- `mpdu_len` when the payload is read. -/
def fragMpduLen (s : Frag) : ℤ :=
  (s.padapter.fragLen : ℤ) - 4 - s.pattrib.hdrlen - s.pattrib.ivLen - (fragLlc s).length - (fragIcv s).length

def fragRead (s : Frag) : List UInt8 × List UInt8 :=
  rtwPktfileRead s.pktfile (if isMulticastEtherAddr s.pattrib.ra then s.pattrib.pktlen else fragMpduLen s)

def fragMpdu (s : Frag) : Mpdu :=
  ⟨s.memStart, s.pattrib.iv.toList.take s.pattrib.ivLen, fragLlc s, (fragRead s).1, fragIcv s⟩

def fragCursor (s : Frag) : Cursor :=
  let c : Cursor := ⟨setMFrag s.mem s.memStart, s.memStart + s.pattrib.hdrlen⟩
  (((c.put (fragMpdu s).iv).put (fragMpdu s).llc).put (fragMpdu s).data).put (fragMpdu s).icv

def fragWrite (s : Frag) : Frag :=
  { s with
    mem := (fragCursor s).mem
    pframe := (fragCursor s).pframe
    pktfile := (fragRead s).2
    frgInx := s.frgInx + 1
    mpdus := s.mpdus ++ [fragMpdu s] }

/-- One pass up to the test for the end of the packet. -/
def fragPass (s : Frag) : Frag := fragWrite (fragIv psta s)

def fragDone (s : Frag) : Prop := isMulticastEtherAddr s.pattrib.ra = true ∨ s.pktfile = []

instance (s : Frag) : Decidable (fragDone s) := inferInstanceAs (Decidable (_ ∨ _))

/-- `pattrib->last_txcmdsz`, where `u` is the MPDU just written. -/
def lastTxcmdszOf (a : PktAttrib) (nrFrags : ℕ) (u : Mpdu) : ℕ :=
  a.hdrlen + a.ivLen + (if nrFrags = 1 then u.llc.length else 0) + (if a.bswenc then a.icvLen else 0) +
    u.data.length

/-- The end of the packet; `nr_frags` is a `u8`. -/
def fragLast (s : Frag) (u : Mpdu) : Frag :=
  let nrFrags := s.frgInx % 256
  { s with
    pattrib := { s.pattrib with nrFrags := nrFrags, lastTxcmdsz := lastTxcmdszOf s.pattrib nrFrags u }
    mem := clearMFrag s.mem s.memStart }

/-- The next MPDU starts with a copy of the first one's header. -/
def fragNext (s : Frag) : Frag :=
  let memStart := rnd4 s.pframe + TXDESC_OFFSET
  { s with
    memStart := memStart
    mem := putBytes s.mem memStart (bytesAt s.mem TXDESC_OFFSET s.pattrib.hdrlen) }

/-- `while (1)` for at most the given number of turns. -/
def coalesceLoop : ℕ → Frag → Option Frag
  | 0, _ => none
  | n + 1, s =>
    if fragDone (fragPass psta s) then some (fragLast (fragPass psta s) (fragMpdu (fragIv psta s)))
    else coalesceLoop n (fragNext (fragPass psta s))

end Loop

/-! ## The Michael code -/

/-- Where `payload` points after `n` fragments, and what was digested. The lengths are `int`s handed on as
`u32`s. -/
def micWalk (fragLen : ℕ) (f : XmitFrame) (d : MicData) : ℕ → ℤ × MicData
  | 0 => (TXDESC_OFFSET, d)
  | curfragnum + 1 =>
    let w := micWalk fragLen f d curfragnum
    let a := f.attrib
    let payload := rnd4 w.1 + a.hdrlen + a.ivLen
    let icvLen := if a.bswenc then a.icvLen else 0
    if curfragnum + 1 = a.nrFrags then
      let length := (a.lastTxcmdsz : ℤ) - a.hdrlen - a.ivLen - icvLen
      (payload + length, rtwSecmicappend w.2 (bytesAt f.mem payload (uint length)))
    else
      let length := (fragLen : ℤ) - a.hdrlen - a.ivLen - icvLen
      (payload + length + a.icvLen, rtwSecmicappend w.2 (bytesAt f.mem payload (uint length)))

theorem grpKeyid_lt (padapter : RtwAdapter) : padapter.securitypriv.dot118021XGrpKeyid % 4 < 4 := Nat.mod_lt _ (by decide)

/-- The key of `xmitframe_addmic`; a key of zeroes is none. -/
def txMickey (padapter : RtwAdapter) (a : PktAttrib) (psta : StaId) : Option Skey :=
  let key :=
    if isMulticastEtherAddr a.ra then
      getElem padapter.securitypriv.dot118021XGrptxmickey (padapter.securitypriv.dot118021XGrpKeyid % 4)
        (grpKeyid_lt padapter)
    else (padapter.staInfo psta).dot11tkiptxmickey
  if key = Vector.replicate 16 0 then none else some key

/-- `priority[0]`. -/
def micPriority (a : PktAttrib) : UInt8 := if a.qosEn ≠ 0 then UInt8.ofNat a.priority else 0

/-- The state the code is read from, and where it goes. -/
def addmicWalk (padapter : RtwAdapter) (f : XmitFrame) (key : Skey) : ℤ × MicData :=
  micWalk padapter.fragLen f
    (micPseudoHeader (rtwSecmicsetkey key) f.mem TXDESC_OFFSET (micPriority f.attrib)) f.attrib.nrFrags

def addLastTxcmdsz (a : PktAttrib) (n : ℕ) : PktAttrib := { a with lastTxcmdsz := a.lastTxcmdsz + n }

def xmitframeAddmic (padapter : RtwAdapter) (f : XmitFrame) : Option XmitFrame := do
  let psta ← xmitSta padapter f.attrib
  if f.attrib.encrypt = TKIP then
    let key ← txMickey padapter f.attrib psta
    let w := addmicWalk padapter f key
    pure ⟨addLastTxcmdsz f.attrib 8, putBytes f.mem w.1 (rtwSecgetmic w.2)⟩
  else pure f

/-! ## The whole function -/

/-- What `rtw_xmitframe_coalesce` leaves: its result, the adapter, the frame, the MPDUs it wrote. -/
structure CoalesceOutcome where
  ret : Bool
  padapter : RtwAdapter
  pxmitframe : XmitFrame
  mpdus : List Mpdu

def fragStart (padapter : RtwAdapter) (pkt : EthFrame) (a : PktAttrib) (m : Mem) : Frag :=
  ⟨padapter, a, m, (rtwPktfileRead pkt.data a.pktHdrlen).2, 0, TXDESC_OFFSET, TXDESC_OFFSET, []⟩

def coalesceTail (s : Frag) : CoalesceOutcome :=
  match xmitframeAddmic s.padapter ⟨s.pattrib, s.mem⟩ with
  | none => ⟨false, s.padapter, ⟨s.pattrib, s.mem⟩, s.mpdus⟩
  | some f => ⟨true, s.padapter, xmitframeSwencrypt s.padapter f, s.mpdus⟩

/-- `rtw_xmitframe_coalesce`; none is a loop that has not ended after one turn for each byte and two more.
A frame that fails before the loop is freed as it is. -/
def rtwXmitframeCoalesce (padapter : RtwAdapter) (pkt : EthFrame) (f : XmitFrame) : Option CoalesceOutcome :=
  match xmitSta padapter f.attrib with
  | none => some ⟨false, padapter, f, []⟩
  | some psta =>
    match rtwMakeWlanhdr padapter f.mem TXDESC_OFFSET f.attrib with
    | none => some ⟨false, padapter, f, []⟩
    | some (padapter, pattrib, mem) =>
      (coalesceLoop psta (pkt.data.length + 2) (fragStart padapter pkt pattrib mem)).map coalesceTail

end Rtl8723au
