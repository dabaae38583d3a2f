import Rtl8723au.Include.Adapter
import Rtl8723au.Include.Wifi

/-! Validation of a received frame, `validate_recv_frame` of `core/rtw_recv.c` and
what it calls, on the bytes from `rx_data` on. Statistics, power saving and the
frames sent in answer are left out; no byte is compared with the frame's length. -/
namespace Rtl8723au
open Mem Wifi
set_option autoImplicit false

/-- `_SUCCESS`, `_FAIL` and `RTW_RX_HANDLED`. -/
inductive RxRet where
  | success
  | fail
  | handled
  deriving DecidableEq

def zeroAddr : MacAddr := Vector.replicate 6 0

/-! ## Addresses by direction -/

def getDa (toFrDs : ℕ) : ℤ :=
  match toFrDs with
  | 0 | 1 => getAddr1Ptr 0
  | _ => getAddr3Ptr 0

def getSa (toFrDs : ℕ) : ℤ :=
  match toFrDs with
  | 0 | 2 => getAddr2Ptr 0
  | 1 => getAddr3Ptr 0
  | _ => getAddr4Ptr 0

/-- `get_hdr_bssid`; its null case needs a direction above three. -/
def getHdrBssid (toFrDs : ℕ) : ℤ :=
  match toFrDs with
  | 0 => getAddr3Ptr 0
  | 1 => getAddr2Ptr 0
  | _ => getAddr1Ptr 0

/-! ## The three directions -/

section Directions
variable (adapter : RtwAdapter)

def mpAddrs (a : RxPktAttrib) : M RxPktAttrib := do
  let dst ← readVec (getAddr1Ptr 0) 6
  let src ← readVec (getAddr2Ptr 0) 6
  let bssid ← readVec (getAddr3Ptr 0) 6
  pure { a with dst := dst, src := src, bssid := bssid, ra := dst, ta := src }

/-- A BSSID is missing on either side, or they differ. -/
def bssidMismatch (a : RxPktAttrib) : Bool :=
  a.bssid == zeroAddr || adapter.bssid == zeroAddr || a.bssid != adapter.bssid

/-- The end of `sta2sta_data_frame`, where the station is looked up. -/
def sta2staLookup (ret : RxRet) (a : RxPktAttrib) (bmcast : Bool) (staAddr : Option MacAddr) :
    RxRet × RxPktAttrib × Option StaId :=
  let psta := if bmcast then rtwGetBcmcStainfo adapter.stapriv else rtwGetStainfo adapter.stapriv staAddr
  (if psta.isNone then .fail else ret, a, psta)

def sta2staDataFrame (a : RxPktAttrib) : M (RxRet × RxPktAttrib × Option StaId) :=
  let bmcast := isMulticastEtherAddr a.dst
  if adapter.checkFwstate WIFI_ADHOC_STATE || adapter.checkFwstate WIFI_ADHOC_MASTER_STATE then
    if adapter.macAddr == a.src || (adapter.macAddr != a.dst && !bmcast) || bssidMismatch adapter a then
      pure (.fail, a, none)
    else pure (sta2staLookup adapter .success a bmcast (some a.src))
  else if adapter.checkFwstate WIFI_STATION_STATE then
    if a.bssid != a.src then pure (.fail, a, none)
    else pure (sta2staLookup adapter .success a bmcast (some a.bssid))
  else if adapter.checkFwstate WIFI_AP_STATE then
    if bmcast then
      if !isMulticastEtherAddr a.bssid then pure (.fail, a, none)
      else pure (sta2staLookup adapter .success a bmcast none)
    else if a.bssid != a.dst then pure (.fail, a, none)
    else pure (sta2staLookup adapter .success a bmcast (some a.src))
  else if adapter.checkFwstate WIFI_MP_STATE then do
    let a ← mpAddrs a
    pure (sta2staLookup adapter .success a bmcast (some adapter.bssid))
  else pure (sta2staLookup adapter .fail a bmcast none)

/-- `BIT(6)` of the subtype: a frame without data is counted and done with. -/
def noData (fc : ℕ) : Bool := getFrameSubType fc &&& 0x40 != 0

def ap2staDataFrame (a : RxPktAttrib) : M (RxRet × RxPktAttrib × Option StaId) :=
  let bmcast := isMulticastEtherAddr a.dst
  if adapter.checkFwstate WIFI_STATION_STATE &&
      (adapter.checkFwstate WIFI_ASOC_STATE || adapter.checkFwstate WIFI_UNDER_LINKING) then
    if adapter.macAddr == a.src || (adapter.macAddr != a.dst && !bmcast) || bssidMismatch adapter a then
      pure (.fail, a, none)
    else
      match if bmcast then rtwGetBcmcStainfo adapter.stapriv
        else rtwGetStainfo adapter.stapriv (some a.bssid) with
      | none => pure (.fail, a, none)
      | some psta => do
        let fc ← readLe16 0
        pure (if noData fc then .handled else .success, a, some psta)
  else if adapter.checkFwstate WIFI_MP_STATE && adapter.checkFwstate WIFI_ASOC_STATE then do
    let a ← mpAddrs a
    let a := { a with bssid := adapter.bssid }
    let psta := rtwGetStainfo adapter.stapriv (some a.bssid)
    pure (if psta.isNone then .fail else .success, a, psta)
  else if adapter.checkFwstate WIFI_AP_STATE then pure (.handled, a, none)
  else
    let psta := if adapter.macAddr == a.dst && !bmcast then rtwGetStainfo adapter.stapriv (some a.bssid) else none
    pure (.fail, a, psta)

def sta2apDataFrame (a : RxPktAttrib) : M (RxRet × RxPktAttrib × Option StaId) :=
  if adapter.checkFwstate WIFI_AP_STATE then
    if a.bssid != adapter.bssid then pure (.fail, a, none)
    else
      match rtwGetStainfo adapter.stapriv (some a.src) with
      | none => pure (.handled, a, none)
      | some psta => do
        let fc ← readLe16 0
        pure (if noData fc then .handled else .success, a, some psta)
  else pure (.handled, a, none)

/-- The `switch` of `validate_recv_data_frame`; `dst`, `src` and `bssid` are set. -/
def toFrDsCheck (a : RxPktAttrib) : M (RxRet × RxPktAttrib × Option StaId) :=
  match a.toFrDs with
  | 0 => sta2staDataFrame adapter { a with ra := a.dst, ta := a.src }
  | 1 => ap2staDataFrame adapter { a with ra := a.dst, ta := a.bssid }
  | 2 => sta2apDataFrame adapter { a with ra := a.bssid, ta := a.src }
  | 3 => do
    let ra ← readVec (getAddr1Ptr 0) 6
    let ta ← readVec (getAddr2Ptr 0) 6
    pure (.fail, { a with ra := ra, ta := ta }, none)
  | _ => pure (.fail, a, none)

end Directions

/-! ## Data frames -/

/-- `recv_decache` on the sequence numbers last seen of the station. -/
def recvDecache (a : RxPktAttrib) (tidRxseq : Tid → ℕ) : Bool × (Tid → ℕ) :=
  let tid := a.priority
  let seqCtrl := (((a.seqNum &&& 0xffff) <<< 4) ||| (a.fragNum &&& 0xf)) % 0x10000
  if tid > 15 then (false, tidRxseq)
  else if seqCtrl = tidRxseq (Fin.ofNat 16 tid) then (false, tidRxseq)
  else (true, Function.update tidRxseq (Fin.ofNat 16 tid) seqCtrl)

def RtwAdapter.setTidRxseq (adapter : RtwAdapter) (psta : StaId) (tidRxseq : Tid → ℕ) : RtwAdapter :=
  let sta := { adapter.stapriv.staInfo psta with tidRxseq := tidRxseq }
  let staInfo := Function.update adapter.stapriv.staInfo psta sta
  { adapter with stapriv := { adapter.stapriv with staInfo := staInfo } }

/-- The QoS control field and the header length. -/
def parseQc (a : RxPktAttrib) : M RxPktAttrib := do
  let a := { a with amsdu := false, ackPolicy := 0 }
  let a ← if a.qos then do
      let qc ← readLe16 24
      pure { a with
        priority := getPriority qc
        ackPolicy := getAckpolicy qc
        amsdu := getAMsdu qc != 0
        hdrlen := if a.toFrDs = 3 then 32 else 26 }
    else pure { a with priority := 0, hdrlen := if a.toFrDs = 3 then 30 else 24 }
  pure (if a.order then { a with hdrlen := a.hdrlen + 4 } else a)

/-- The cipher of the frame and the lengths it takes off it. -/
def setCipher (adapter : RtwAdapter) (psta : StaId) (a : RxPktAttrib) : RxPktAttrib :=
  if a.privacy then
    let encrypt := getEncryAlgo adapter.securitypriv (adapter.stapriv.staInfo psta) a.encrypt
      (isMulticastEtherAddr a.ra)
    { a with encrypt := encrypt, ivLen := (setIceIvLen encrypt).1, icvLen := (setIceIvLen encrypt).2 }
  else { a with encrypt := 0, ivLen := 0, icvLen := 0 }

/-- `validate_recv_data_frame` once the direction is checked and the station known. -/
def validateDataTail (adapter : RtwAdapter) (f : RecvFrame) (a : RxPktAttrib) (psta : StaId) :
    M (RxRet × RecvFrame × RtwAdapter) := do
  let a ← parseQc a
  let f := { f with attrib := a, psta := some psta, preorderCtrl := some (psta, Fin.ofNat 16 a.priority) }
  match recvDecache a (adapter.stapriv.staInfo psta).tidRxseq with
  | (false, _) => pure (.fail, f, adapter)
  | (true, tidRxseq) =>
    pure (.success, { f with attrib := setCipher adapter psta a }, adapter.setTidRxseq psta tidRxseq)

/-- The start of `validate_recv_data_frame`: the addresses its direction gives the frame, then the `switch`
on the direction. -/
def checkDirection (adapter : RtwAdapter) (a : RxPktAttrib) : M (RxRet × RxPktAttrib × Option StaId) := do
  let fc ← readLe16 0
  let toFrDs := getTofrDs fc
  let dst ← readVec (getDa toFrDs) 6
  let src ← readVec (getSa toFrDs) 6
  let bssid ← readVec (getHdrBssid toFrDs) 6
  toFrDsCheck adapter { a with dst := dst, src := src, bssid := bssid }

def validateRecvDataFrame (adapter : RtwAdapter) (f : RecvFrame) : M (RxRet × RecvFrame × RtwAdapter) := do
  let checked ← checkDirection adapter f.attrib
  match checked with
  | (.success, a, some psta) => validateDataTail adapter f a psta
  | (.success, a, none) => pure (.fail, { f with attrib := a }, adapter)
  | (ret, a, _) => pure (ret, { f with attrib := a }, adapter)

/-! ## Management and control frames -/

def WIFI_PROBERSP : ℕ := 0x50
def WIFI_PSPOLL : ℕ := 0xa4

/-- `recvframe_chk_defrag` asks for the type of a frame from an unknown station. -/
def chkDefragType (adapter : RtwAdapter) (a : RxPktAttrib) : M Unit :=
  if (rtwGetStainfo adapter.stapriv (some a.ta)).isNone then AccessM.touch [0, 1] else pure ()

/-- The addresses and the subtype the statistics go by. -/
def mgntStatistics (adapter : RtwAdapter) : M Unit := do
  let ta ← readVec (getAddr2Ptr 0) 6
  if (rtwGetStainfo adapter.stapriv (some ta)).isNone then pure ()
  else
    let fc ← readLe16 0
    if getFrameSubType fc = WIFI_PROBERSP then
      let _ ← readVec (getAddr1Ptr 0) 6
      pure ()
    else pure ()

/-- What `validate_recv_mgnt_frame` reads of a frame; a fragment goes to the queue of its station. -/
def validateRecvMgntFrame (adapter : RtwAdapter) (a : RxPktAttrib) : M Unit := do
  chkDefragType adapter a
  if a.mfrag || a.fragNum != 0 then pure () else mgntStatistics adapter

/-- What `validate_recv_ctrl_frame` reads. -/
def validateRecvCtrlFrame (adapter : RtwAdapter) : M Unit := do
  let fc ← readLe16 0
  if getFrameType fc ≠ WIFI_CTRL_TYPE then pure ()
  else
    let ra ← readVec (getAddr1Ptr 0) 6
    if ra ≠ adapter.macAddr then pure ()
    else if getFrameSubType fc = WIFI_PSPOLL then
      let _ ← readLe16 2
      let _ ← readVec (getAddr2Ptr 0) 6
      pure ()
    else pure ()

/-! ## All frames -/

/-- The header fields `validate_recv_frame` takes over, from the frame and sequence control. -/
def headerAttrib (a : RxPktAttrib) (fc sc : ℕ) : RxPktAttrib :=
  { a with
    toFrDs := getTofrDs fc
    fragNum := getFragNum sc
    seqNum := getSequence sc
    pwSave := getPwrMgt fc
    mfrag := getMFrag fc
    mdata := getMData fc
    privacy := getPrivacy fc
    order := getOrder fc }

/-- `bDumpRxPkt` asks for the first 64 bytes of frames of this type. -/
def dumps (adapter : RtwAdapter) (type : ℕ) : Bool :=
  adapter.bDumpRxPkt == 1 || (adapter.bDumpRxPkt == 2 && type == WIFI_MGT_TYPE) ||
    (adapter.bDumpRxPkt == 3 && type == WIFI_DATA_TYPE)

def dumpRxPkt (adapter : RtwAdapter) (type : ℕ) : M Unit :=
  if dumps adapter type then AccessM.touch ((List.range 64).map fun i : ℕ => (i : ℤ)) else pure ()

/-- The `switch` of `validate_recv_frame`; only data frames are ever successful. -/
def validateByType (adapter : RtwAdapter) (f : RecvFrame) (fc : ℕ) : M (RxRet × RecvFrame × RtwAdapter) :=
  if getFrameType fc = WIFI_MGT_TYPE then do
    validateRecvMgntFrame adapter f.attrib
    pure (.fail, f, adapter)
  else if getFrameType fc = WIFI_CTRL_TYPE then do
    validateRecvCtrlFrame adapter
    pure (.fail, f, adapter)
  else if getFrameType fc = WIFI_DATA_TYPE then
    validateRecvDataFrame adapter
      { f with attrib := { f.attrib with qos := getFrameSubType fc &&& 0x80 != 0 } }
  else pure (.fail, f, adapter)

def validateRecvFrame (adapter : RtwAdapter) (f : RecvFrame) : M (RxRet × RecvFrame × RtwAdapter) := do
  let b ← read 0
  if b &&& 0x3 ≠ 0 then pure (.fail, f, adapter)
  else
    let fc ← readLe16 0
    let sc ← readLe16 22
    let f := { f with attrib := headerAttrib f.attrib fc sc }
    dumpRxPkt adapter (getFrameType fc)
    validateByType adapter f fc

end Rtl8723au
