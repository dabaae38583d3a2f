import Rtl8723au.Ap.BssCap
import Rtl8723au.Include.Wifi
import Rtl8723au.Include.Xmit

/-! `update_attrib` of `core/rtw_xmit.c`: the attributes of the frame an Ethernet packet goes out in.
The DHCP test, the power save commands and the checksum offload are left out. -/
namespace Rtl8723au
open Wifi
set_option autoImplicit false

/-- `update_attrib_phy_info`; the rate and bandwidth members are left out. -/
def updateAttribPhyInfo (pattrib : PktAttrib) (psta : StaInfo) : PktAttrib :=
  { pattrib with mdata := false, eosp := 0, qosEn := psta.qosOption }

def qosAcm (acmMask priority : ℕ) : ℕ :=
  match priority with
  | 0 | 3 => if acmMask.testBit 1 then 1 else priority
  | 4 | 5 => if acmMask.testBit 2 then 0 else priority
  | 6 | 7 => if acmMask.testBit 3 then 5 else priority
  | _ => priority

/-- `UserPriority`, from `ip_hdr.tos`. Without a second payload byte that member of the local `ip_hdr`
is what the stack held, `junk`. -/
def userPriority (junk : UInt8) (pkt : EthFrame) (etherType : ℕ) : ℕ :=
  if etherType = 0x0800 then (pkt.payload.getD 1 junk >>> 5).toNat
  else if etherType = 0x888e then 7
  else 0

def setQos (junk : UInt8) (pkt : EthFrame) (pattrib : PktAttrib) : PktAttrib :=
  { pattrib with
    priority := userPriority junk pkt pattrib.etherType
    hdrlen := WLAN_HDR_A3_QOS_LEN
    subtype := WIFI_QOS_DATA_TYPE }

section Update
variable (padapter : RtwAdapter) (junk : UInt8) (pkt : EthFrame) (pattrib : PktAttrib)

/-- The addresses; outside the four modes `ra` and `ta` stay as they were. -/
def attribAddrs : PktAttrib :=
  let pattrib := { pattrib with etherType := pkt.etherType, dst := pkt.hDest, src := pkt.hSource }
  if padapter.checkFwstate WIFI_ADHOC_STATE || padapter.checkFwstate WIFI_ADHOC_MASTER_STATE then
    { pattrib with ra := pattrib.dst, ta := pattrib.src }
  else if padapter.checkFwstate WIFI_STATION_STATE then
    { pattrib with ra := padapter.bssid, ta := pattrib.src }
  else if padapter.checkFwstate WIFI_AP_STATE then
    { pattrib with ra := pattrib.dst, ta := padapter.bssid }
  else pattrib

def attribSta (ra : MacAddr) : Option StaId :=
  if isMulticastEtherAddr ra then rtwGetBcmcStainfo padapter.stapriv
  else
    match rtwGetStainfo padapter.stapriv (some ra) with
    | none => none
    | some psta =>
      if padapter.checkFwstate WIFI_AP_STATE && !(padapter.staInfo psta).inState _FW_LINKED then none
      else some psta

/-- The header the frame gets, and its priority. -/
def attribQos (psta : StaInfo) : PktAttrib :=
  let pattrib := { pattrib with
    ackPolicy := 0, pktHdrlen := 14, hdrlen := WLAN_HDR_A3_LEN, subtype := WIFI_DATA_TYPE, priority := 0 }
  if padapter.checkFwstate (WIFI_AP_STATE ||| WIFI_ADHOC_STATE ||| WIFI_ADHOC_MASTER_STATE) then
    if psta.qosOption ≠ 0 then setQos junk pkt pattrib else pattrib
  else if padapter.mlmepriv.qosOption ≠ 0 then
    let pattrib := setQos junk pkt pattrib
    if padapter.mlmepriv.acmMask ≠ 0 then
      { pattrib with priority := qosAcm padapter.mlmepriv.acmMask pattrib.priority }
    else pattrib
  else pattrib

def attribKeyIdx : ℕ :=
  match padapter.securitypriv.dot11AuthAlgrthm with
  | 0 | 1 | 3 => padapter.securitypriv.dot11PrivacyKeyIndex % 256
  | 2 => if isMulticastEtherAddr pattrib.ra then padapter.securitypriv.dot118021XGrpKeyid % 256 else 0
  | _ => 0

/-- The cipher; a station whose port is blocked is sent EAPOL frames in the clear and nothing else. -/
def attribEncrypt (psta : StaInfo) : Option PktAttrib :=
  if psta.ieee8021xBlocked then
    if pattrib.etherType ≠ 0x888e ∧ padapter.checkFwstate WIFI_MP_STATE = false then none
    else some { pattrib with encrypt := 0 }
  else some { pattrib with
    encrypt := getEncryAlgo padapter.securitypriv psta pattrib.encrypt (isMulticastEtherAddr pattrib.ra)
    keyIdx := attribKeyIdx padapter pattrib }

/-- The lengths of the IV and the ICV the cipher adds. -/
def ivIcvLen (encrypt : ℕ) : ℕ × ℕ :=
  match encrypt with
  | 0x1 | 0x5 => (4, 4)
  | 0x2 => (8, 4)
  | 0x4 => (8, 8)
  | _ => (0, 0)

/-- The `switch` on the cipher and `bswenc`; TKIP is refused until its key is set. -/
def attribLens : Option PktAttrib :=
  if pattrib.encrypt = TKIP ∧ padapter.securitypriv.busetkipkey = false then none
  else some { pattrib with
    ivLen := (ivIcvLen pattrib.encrypt).1
    icvLen := (ivIcvLen pattrib.encrypt).2
    bswenc := pattrib.encrypt != 0 && (padapter.securitypriv.swEncrypt || !padapter.securitypriv.hwDecrypted) }

/-- `update_attrib`; on `_FAIL` the frame is dropped. -/
def updateAttrib : Option PktAttrib := do
  let pattrib := { attribAddrs padapter pkt pattrib with pktlen := pkt.payload.length }
  let psta ← attribSta padapter pattrib.ra
  let info := padapter.staInfo psta
  let pattrib := { pattrib with macId := info.macId, psta := some psta }
  let pattrib ← attribEncrypt padapter (attribQos padapter junk pkt pattrib info) info
  let pattrib ← attribLens padapter pattrib
  pure (updateAttribPhyInfo pattrib info)

end Update

/-! ## What the attributes say of the packet -/

/-- The two shapes of header. -/
inductive HdrShape (a : PktAttrib) : Prop where
  | plain (hdrlen : a.hdrlen = 24) (subtype : a.subtype = 0x08) (priority : a.priority = 0)
  | qos (hdrlen : a.hdrlen = 26) (subtype : a.subtype = 0x88)

/-- What `update_attrib` settles, as the later stages use it. -/
structure AttribOf (padapter : RtwAdapter) (pkt : EthFrame) (pattrib a : PktAttrib) : Prop where
  etherType : a.etherType = pkt.etherType
  dst : a.dst = pkt.hDest
  src : a.src = pkt.hSource
  pktlen : a.pktlen = pkt.payload.length
  pktHdrlen : a.pktHdrlen = 14
  shape : HdrShape a
  priority : a.priority < 8
  lens : (a.ivLen, a.icvLen) = ivIcvLen a.encrypt
  bswenc : a.bswenc =
    (a.encrypt != 0 && (padapter.securitypriv.swEncrypt || !padapter.securitypriv.hwDecrypted))
  flags : a.mdata = false ∧ a.eosp = 0 ∧ a.ackPolicy = 0
  arrays : a.iv = pattrib.iv ∧ a.icv = pattrib.icv
  psta : ∃ p, a.psta = some p ∧ attribSta padapter a.ra = some p ∧ a.qosEn = (padapter.staInfo p).qosOption

section Spec
variable (padapter : RtwAdapter) (junk : UInt8) (pkt : EthFrame)

theorem userPriority_lt (etherType : ℕ) : userPriority junk pkt etherType < 8 := by
  have hbyte : ∀ b : UInt8, (b >>> 5).toNat < 8 := by
    intro b
    have hb := b.toNat_lt
    rw [UInt8.toNat_shiftRight]
    show b.toNat >>> 5 < 8
    rw [Nat.shiftRight_eq_div_pow]
    omega
  unfold userPriority
  split
  · exact hbyte _
  · split <;> omega

theorem qosAcm_lt (acmMask priority : ℕ) (h : priority < 8) : qosAcm acmMask priority < 8 := by
  unfold qosAcm
  split <;> first | omega | (split <;> omega)

theorem attribAddrs_eq (pattrib : PktAttrib) : ∃ ra ta, attribAddrs padapter pkt pattrib =
    { pattrib with etherType := pkt.etherType, dst := pkt.hDest, src := pkt.hSource, ra := ra, ta := ta } := by
  unfold attribAddrs
  dsimp only
  split
  · exact ⟨_, _, rfl⟩
  · split
    · exact ⟨_, _, rfl⟩
    · split <;> exact ⟨_, _, rfl⟩

theorem attribQos_eq (pattrib : PktAttrib) (info : StaInfo) : ∃ hdrlen subtype priority,
    attribQos padapter junk pkt pattrib info = { pattrib with
      ackPolicy := 0, pktHdrlen := 14, hdrlen := hdrlen, subtype := subtype, priority := priority } ∧
    (hdrlen = 24 ∧ subtype = 0x08 ∧ priority = 0 ∨ hdrlen = 26 ∧ subtype = 0x88) ∧ priority < 8 := by
  unfold attribQos
  dsimp only
  split
  · split
    · exact ⟨_, _, _, rfl, .inr ⟨rfl, rfl⟩, userPriority_lt junk pkt _⟩
    · exact ⟨_, _, _, rfl, .inl ⟨rfl, rfl, rfl⟩, Nat.zero_lt_succ 7⟩
  · split
    · split
      · exact ⟨_, _, _, rfl, .inr ⟨rfl, rfl⟩, qosAcm_lt _ _ (userPriority_lt junk pkt _)⟩
      · exact ⟨_, _, _, rfl, .inr ⟨rfl, rfl⟩, userPriority_lt junk pkt _⟩
    · exact ⟨_, _, _, rfl, .inl ⟨rfl, rfl, rfl⟩, Nat.zero_lt_succ 7⟩

theorem attribEncrypt_eq (pattrib a : PktAttrib) (info : StaInfo)
    (h : attribEncrypt padapter pattrib info = some a) :
    ∃ encrypt keyIdx, a = { pattrib with encrypt := encrypt, keyIdx := keyIdx } := by
  unfold attribEncrypt at h
  split at h
  · split at h
    · cases h
    · cases h
      exact ⟨_, _, rfl⟩
  · cases h
    exact ⟨_, _, rfl⟩

theorem attribLens_eq (pattrib a : PktAttrib) (h : attribLens padapter pattrib = some a) :
    a = { pattrib with
      ivLen := (ivIcvLen pattrib.encrypt).1
      icvLen := (ivIcvLen pattrib.encrypt).2
      bswenc := pattrib.encrypt != 0 &&
        (padapter.securitypriv.swEncrypt || !padapter.securitypriv.hwDecrypted) } := by
  unfold attribLens at h
  split at h
  · cases h
  · cases h
    rfl

/-- **`update_attrib`** on success: the header is of a known shape and everything else is the packet's. -/
theorem updateAttrib_spec (pattrib a : PktAttrib) (h : updateAttrib padapter junk pkt pattrib = some a) :
    AttribOf padapter pkt pattrib a := by
  unfold updateAttrib at h
  obtain ⟨ra, ta, haddrs⟩ := attribAddrs_eq padapter pkt pattrib
  rw [haddrs] at h
  obtain ⟨p, hsta, h⟩ := Option.bind_eq_some_iff.mp h
  obtain ⟨a1, henc, h⟩ := Option.bind_eq_some_iff.mp h
  obtain ⟨a2, hlens, h⟩ := Option.bind_eq_some_iff.mp h
  cases h
  obtain ⟨encrypt, keyIdx, rfl⟩ := attribEncrypt_eq padapter _ a1 _ henc
  have ha2 := attribLens_eq padapter _ a2 hlens
  generalize hqos : attribQos padapter junk pkt _ _ = q at ha2
  subst ha2
  obtain ⟨hdrlen, subtype, priority, hq, hshape, hprio⟩ := attribQos_eq padapter junk pkt _ (padapter.staInfo p)
  rw [hq] at hqos
  subst hqos
  refine ⟨rfl, rfl, rfl, rfl, rfl, ?_, hprio, rfl, rfl, ⟨rfl, rfl, rfl⟩, ⟨rfl, rfl⟩, ⟨p, rfl, hsta, rfl⟩⟩
  obtain ⟨hh, hs, hp⟩ | ⟨hh, hs⟩ := hshape
  · exact .plain hh hs hp
  · exact .qos hh hs

end Spec

end Rtl8723au

/-! `rtw_make_wlanhdr` of `core/rtw_xmit.c`: the 802.11 header of a data frame. The 802.11n
aggregation members are left out. -/
namespace Rtl8723au
open Mem Wifi
set_option autoImplicit false

/-- The direction bit, the three addresses and `qos_option` that the mode gives the header. -/
structure HdrDir where
  ds : ℕ
  addr1 : MacAddr
  addr2 : MacAddr
  addr3 : MacAddr
  qosOption : Bool

def hdrDir (padapter : RtwAdapter) (pattrib : PktAttrib) (psta : StaInfo) : Option HdrDir :=
  if padapter.checkFwstate WIFI_STATION_STATE then
    some ⟨0x100, padapter.bssid, pattrib.src, pattrib.dst, padapter.mlmepriv.qosOption != 0⟩
  else if padapter.checkFwstate WIFI_AP_STATE then
    some ⟨0x200, pattrib.dst, padapter.bssid, pattrib.src, psta.qosOption != 0⟩
  else if padapter.checkFwstate WIFI_ADHOC_STATE || padapter.checkFwstate WIFI_ADHOC_MASTER_STATE then
    some ⟨0, pattrib.dst, pattrib.src, padapter.bssid, psta.qosOption != 0⟩
  else none

def putQosCtl (m : Mem) (qc : ℤ) (pattrib : PktAttrib) : Mem :=
  let m := if pattrib.priority ≠ 0 then setPriority m qc pattrib.priority else m
  setAckpolicy (setEOSP m qc pattrib.eosp) qc pattrib.ackPolicy

/-- `SetToDs` or `SetFrDs`, and the addresses. -/
def putHdrDir (m : Mem) (hdr : ℤ) (d : HdrDir) : Mem :=
  let m := if d.ds = 0x100 then setToDs m hdr else if d.ds = 0x200 then setFrDs m hdr else m
  let m := putBytes m (getAddr1Ptr hdr) d.addr1.toList
  let m := putBytes m (getAddr2Ptr hdr) d.addr2.toList
  putBytes m (getAddr3Ptr hdr) d.addr3.toList

def putWlanhdr (m : Mem) (hdr : ℤ) (pattrib : PktAttrib) (d : HdrDir) (seqnum : ℕ) : Mem :=
  let m := putBytes m hdr (List.replicate WLANHDR_OFFSET 0)
  let m := setFrameSubType m hdr pattrib.subtype
  let m := putHdrDir m hdr d
  let m := if pattrib.mdata then setMData m hdr else m
  let m := if pattrib.encrypt ≠ 0 then setPrivacy m hdr else m
  let m := if d.qosOption then putQosCtl m (hdr + pattrib.hdrlen - 2) pattrib else m
  setSeqNum m hdr seqnum

/-- `psta` when its state is linked. -/
def linkedSta (padapter : RtwAdapter) (psta : StaId) : Option StaId :=
  if (padapter.staInfo psta).inState _FW_LINKED then some psta else none

/-- The station, found by the receiver address when the attributes have none, if it is linked. -/
def xmitSta (padapter : RtwAdapter) (a : PktAttrib) : Option StaId := do
  let psta ← match a.psta with
    | some psta => some psta
    | none => rtwGetStainfo padapter.stapriv (some a.ra)
  linkedSta padapter psta

/-- The station of the frame, looked up when the attributes have none. -/
def frameSta (padapter : RtwAdapter) (pattrib : PktAttrib) : Option StaId :=
  match pattrib.psta with
  | some psta => some psta
  | none =>
    if isMulticastEtherAddr pattrib.ra then rtwGetBcmcStainfo padapter.stapriv
    else rtwGetStainfo padapter.stapriv (some pattrib.ra)

/-- `psta->sta_xmitpriv.txseq_tid[pattrib->priority]` counted on. -/
def nextSeqnum (info : StaInfo) (priority : ℕ) : ℕ := (info.txseqTid (Fin.ofNat 16 priority) + 1) &&& 0xfff

def countSeqnum (info : StaInfo) (priority : ℕ) : StaInfo :=
  { info with txseqTid :=
      Function.update info.txseqTid (Fin.ofNat 16 priority) (nextSeqnum info priority) }

def rtwMakeWlanhdr (padapter : RtwAdapter) (m : Mem) (hdr : ℤ) (pattrib : PktAttrib) :
    Option (RtwAdapter × PktAttrib × Mem) := do
  let psta ← frameSta padapter pattrib
  let psta ← linkedSta padapter psta
  let info := padapter.staInfo psta
  if pattrib.subtype &&& WIFI_DATA_TYPE = 0 then
    pure (padapter, pattrib,
      setFrameSubType (putBytes m hdr (List.replicate WLANHDR_OFFSET 0)) hdr pattrib.subtype)
  else
    let d ← hdrDir padapter pattrib info
    let seqnum := nextSeqnum info pattrib.priority
    pure (padapter.setInfo psta (countSeqnum info pattrib.priority), { pattrib with seqnum := seqnum },
      putWlanhdr m hdr pattrib d seqnum)

/-! ## The fields of the header -/

section Fields
variable (m : Mem) (p q : ℤ)

theorem le16_putBytes_of_ne (l : List UInt8) (h : q + 1 < p ∨ p + l.length ≤ q) :
    le16 (putBytes m p l) q = le16 m q :=
  le16_congr _ _ q (putBytes_outside m p l q (by omega)) (putBytes_outside m p l (q + 1) (by omega))

theorem le16_onLe16_or (k : ℕ) (hk : k < 2 ^ 16) : le16 (onLe16 m p (· ||| k)) p = le16 m p ||| k :=
  le16_onLe16 m p _ (Nat.or_lt_two_pow (le16_lt m p) hk)

theorem onLe16_ite_outside (c : Prop) [Decidable c] (f : ℕ → ℕ) (x : ℤ) (h : x < p ∨ p + 1 < x) :
    (if c then onLe16 m p f else m) x = m x := by
  split
  · exact onLe16_outside m p f x h
  · rfl

theorem le16_onLe16_ite (c : Prop) [Decidable c] (k : ℕ) (hk : k < 2 ^ 16) :
    le16 (if c then onLe16 m p (· ||| k) else m) p = le16 m p ||| if c then k else 0 := by
  split
  · exact le16_onLe16_or m p k hk
  · exact (Nat.or_zero _).symm

theorem le16_zeroed (hq : p ≤ q) (hq' : q + 1 < p + WLANHDR_OFFSET) :
    le16 (putBytes m p (List.replicate WLANHDR_OFFSET 0)) q = 0 := by
  have hzero : ∀ x, p ≤ x → x < p + WLANHDR_OFFSET →
      putBytes m p (List.replicate WLANHDR_OFFSET 0) x = 0 := by
    intro x hx hx'
    obtain ⟨k, rfl⟩ : ∃ k : ℕ, x = p + k := ⟨(x - p).toNat, by omega⟩
    have hk : k < WLANHDR_OFFSET := by omega
    rw [putBytes_inside _ _ _ _ (by rw [List.length_replicate]; exact hk), List.getD_replicate _ hk]
  rw [le16, hzero q hq (by omega), hzero (q + 1) (by omega) (by omega)]
  rfl

end Fields

section Header
variable (m : Mem) (hdr : ℤ) (a : PktAttrib) (d : HdrDir) (seqnum : ℕ)

theorem putQosCtl_outside (qc x : ℤ) (h : x < qc ∨ qc + 1 < x) : putQosCtl m qc a x = m x := by
  unfold putQosCtl setAckpolicy setEOSP setPriority
  rw [onLe16_outside _ _ _ _ h, onLe16_outside _ _ _ _ h, onLe16_ite_outside _ _ _ _ _ h]

theorem le16_putQosCtl (qc : ℤ) : le16 (putQosCtl m qc a) qc =
    le16 m qc ||| (a.priority &&& 0xf) ||| ((a.eosp &&& 1) <<< 4) ||| ((a.ackPolicy &&& 3) <<< 5) := by
  have hprio : a.priority &&& 0xf < 2 ^ 16 := Nat.and_lt_two_pow _ (by norm_num)
  have heosp : (a.eosp &&& 1) <<< 4 < 2 ^ 16 := by
    have h : a.eosp &&& 1 < 2 ^ 1 := Nat.and_lt_two_pow _ (by norm_num)
    rw [Nat.shiftLeft_eq]
    omega
  have hack : (a.ackPolicy &&& 3) <<< 5 < 2 ^ 16 := by
    have h : a.ackPolicy &&& 3 < 2 ^ 2 := Nat.and_lt_two_pow _ (by norm_num)
    rw [Nat.shiftLeft_eq]
    omega
  unfold putQosCtl setAckpolicy setEOSP
  rw [le16_onLe16_or _ _ _ hack, le16_onLe16_or _ _ _ heosp]
  split
  · rw [setPriority, le16_onLe16_or _ _ _ hprio]
  · rename_i h
    rw [not_not.mp h, Nat.zero_and, Nat.or_zero]

/-- The header without its addresses and its sequence control field. -/
def hdrStart : Mem :=
  setFrameSubType (putBytes m hdr (List.replicate WLANHDR_OFFSET 0)) hdr a.subtype

theorem putHdrDir_outside (x : ℤ) (h : x < hdr ∨ hdr + 22 ≤ x ∨ hdr + 2 ≤ x ∧ x < hdr + 4) :
    putHdrDir m hdr d x = m x := by
  have hlen : ∀ v : MacAddr, v.toList.length = 6 := fun _ => Vector.length_toList
  unfold putHdrDir getAddr1Ptr getAddr2Ptr getAddr3Ptr setToDs setFrDs
  rw [putBytes_outside _ _ _ _ (by rw [hlen]; omega), putBytes_outside _ _ _ _ (by rw [hlen]; omega),
    putBytes_outside _ _ _ _ (by rw [hlen]; omega)]
  split
  · exact onLe16_outside _ _ _ _ (by omega)
  · split
    · exact onLe16_outside _ _ _ _ (by omega)
    · rfl

theorem putHdrDir_addr (k : ℕ) (hk : k < 6) : putHdrDir m hdr d (hdr + 4 + k) = d.addr1.toList.getD k 0 ∧
    putHdrDir m hdr d (hdr + 10 + k) = d.addr2.toList.getD k 0 ∧
    putHdrDir m hdr d (hdr + 16 + k) = d.addr3.toList.getD k 0 := by
  have hlen : ∀ v : MacAddr, v.toList.length = 6 := fun _ => Vector.length_toList
  unfold putHdrDir getAddr1Ptr getAddr2Ptr getAddr3Ptr
  refine ⟨?_, ?_, ?_⟩
  · rw [putBytes_outside _ _ _ _ (by rw [hlen]; omega), putBytes_outside _ _ _ _ (by rw [hlen]; omega),
      putBytes_inside _ _ _ _ (by rw [hlen]; exact hk)]
  · rw [putBytes_outside _ _ _ _ (by rw [hlen]; omega), putBytes_inside _ _ _ _ (by rw [hlen]; exact hk)]
  · rw [putBytes_inside _ _ _ _ (by rw [hlen]; exact hk)]

theorem le16_putHdrDir (hds : d.ds = 0 ∨ d.ds = 0x100 ∨ d.ds = 0x200) :
    le16 (putHdrDir m hdr d) hdr = le16 m hdr ||| d.ds := by
  have hlen : ∀ v : MacAddr, v.toList.length = 6 := fun _ => Vector.length_toList
  unfold putHdrDir getAddr1Ptr getAddr2Ptr getAddr3Ptr setToDs setFrDs
  rw [le16_putBytes_of_ne _ _ _ _ (by omega), le16_putBytes_of_ne _ _ _ _ (by omega),
    le16_putBytes_of_ne _ _ _ _ (by omega)]
  obtain hds | hds | hds := hds
  · rw [hds, if_neg (by norm_num), if_neg (by norm_num), Nat.or_zero]
  · rw [hds, if_pos rfl, le16_onLe16_or _ _ _ (by norm_num)]
  · rw [hds, if_neg (by norm_num), if_pos rfl, le16_onLe16_or _ _ _ (by norm_num)]

theorem le16_hdrStart (hsub : a.subtype < 2 ^ 16) : le16 (hdrStart m hdr a) hdr = a.subtype := by
  have hzero := le16_zeroed m hdr hdr le_rfl (by rw [WLANHDR_OFFSET]; omega)
  unfold hdrStart setFrameSubType
  rw [le16_onLe16 _ _ _ (by rw [hzero, Nat.zero_and, Nat.zero_or]; exact hsub), hzero, Nat.zero_and,
    Nat.zero_or]

/-- The header once its frame control field and its addresses are written. -/
def hdrCtl : Mem :=
  let m := putHdrDir (hdrStart m hdr a) hdr d
  let m := if a.mdata then setMData m hdr else m
  if a.encrypt ≠ 0 then setPrivacy m hdr else m

def hdrQos : Mem :=
  if d.qosOption then putQosCtl (hdrCtl m hdr a d) (hdr + a.hdrlen - 2) a else hdrCtl m hdr a d

theorem putWlanhdr_eq : putWlanhdr m hdr a d seqnum = setSeqNum (hdrQos m hdr a d) hdr seqnum := rfl

theorem hdrQos_outside (x : ℤ) (h : x < hdr + a.hdrlen - 2 ∨ hdr + a.hdrlen ≤ x) :
    hdrQos m hdr a d x = hdrCtl m hdr a d x := by
  unfold hdrQos
  split
  · exact putQosCtl_outside _ a _ x (by omega)
  · rfl

theorem hdrCtl_outside (x : ℤ) (h : x < hdr ∨ hdr + 2 ≤ x) :
    hdrCtl m hdr a d x = putHdrDir (hdrStart m hdr a) hdr d x := by
  unfold hdrCtl setMData setPrivacy
  rw [onLe16_ite_outside _ _ _ _ _ (by omega), onLe16_ite_outside _ _ _ _ _ (by omega)]

theorem hdrCtl_zero (q : ℤ) (h : hdr + 22 ≤ q ∧ q ≤ hdr + 60) : le16 (hdrCtl m hdr a d) q = 0 := by
  have h64 : (WLANHDR_OFFSET : ℤ) = 64 := rfl
  have hdir : le16 (hdrCtl m hdr a d) q = le16 (hdrStart m hdr a) q :=
    le16_congr _ _ q
      (by rw [hdrCtl_outside _ _ _ _ q (by omega), putHdrDir_outside _ _ _ q (by omega)])
      (by rw [hdrCtl_outside _ _ _ _ (q + 1) (by omega), putHdrDir_outside _ _ _ (q + 1) (by omega)])
  rw [hdir, hdrStart, setFrameSubType, le16_onLe16_of_ne _ _ _ _ (by omega)]
  exact le16_zeroed m hdr q (by omega) (by omega)

theorem putWlanhdr_addr (hlen : 24 ≤ a.hdrlen) (k : ℕ) (hk : k < 6) :
    putWlanhdr m hdr a d seqnum (hdr + 4 + k) = d.addr1.toList.getD k 0 ∧
    putWlanhdr m hdr a d seqnum (hdr + 10 + k) = d.addr2.toList.getD k 0 ∧
    putWlanhdr m hdr a d seqnum (hdr + 16 + k) = d.addr3.toList.getD k 0 := by
  have haddr : ∀ x, hdr + 2 ≤ x → x < hdr + 22 →
      putWlanhdr m hdr a d seqnum x = putHdrDir (hdrStart m hdr a) hdr d x := by
    intro x hx hx'
    rw [putWlanhdr_eq, setSeqNum, onLe16_outside _ _ _ _ (by omega), hdrQos_outside _ _ _ _ _ (by omega),
      hdrCtl_outside _ _ _ _ _ (by omega)]
  rw [haddr _ (by omega) (by omega), haddr _ (by omega) (by omega), haddr _ (by omega) (by omega)]
  exact putHdrDir_addr (hdrStart m hdr a) hdr d k hk

def hdrFc : ℕ :=
  a.subtype ||| d.ds ||| (if a.mdata then 0x2000 else 0) ||| (if a.encrypt ≠ 0 then 0x4000 else 0)

theorem le16_putWlanhdr_fc (hlen : 24 ≤ a.hdrlen) (hsub : a.subtype < 2 ^ 16)
    (hds : d.ds = 0 ∨ d.ds = 0x100 ∨ d.ds = 0x200) :
    le16 (putWlanhdr m hdr a d seqnum) hdr = hdrFc a d := by
  have hqos : le16 (hdrQos m hdr a d) hdr = le16 (hdrCtl m hdr a d) hdr :=
    le16_congr _ _ hdr (hdrQos_outside _ _ _ _ _ (by omega)) (hdrQos_outside _ _ _ _ _ (by omega))
  rw [putWlanhdr_eq, setSeqNum, le16_onLe16_of_ne _ _ _ _ (by omega), hqos, hdrCtl, setPrivacy, setMData,
    le16_onLe16_ite _ _ _ _ (by norm_num), le16_onLe16_ite _ _ _ _ (by norm_num),
    le16_putHdrDir _ _ _ hds, le16_hdrStart _ _ _ hsub]
  rfl

theorem le16_putWlanhdr_seq (hshape : HdrShape a) (hflags : a.eosp = 0 ∧ a.ackPolicy = 0) :
    le16 (putWlanhdr m hdr a d seqnum) (hdr + 22) = 0xfff0 &&& (seqnum <<< 4) := by
  have hzero : le16 (hdrQos m hdr a d) (hdr + 22) = 0 := by
    cases hshape with
    | plain hlen hsub hprio =>
      have hqc : hdr + (a.hdrlen : ℤ) - 2 = hdr + 22 := by omega
      unfold hdrQos
      split
      · rw [hqc, le16_putQosCtl, hdrCtl_zero _ _ _ _ _ (by omega), hprio, hflags.1, hflags.2]
        rfl
      · exact hdrCtl_zero _ _ _ _ _ (by omega)
    | qos hlen hsub =>
      have hkeep : le16 (hdrQos m hdr a d) (hdr + 22) = le16 (hdrCtl m hdr a d) (hdr + 22) :=
        le16_congr _ _ _ (hdrQos_outside _ _ _ _ _ (by omega)) (hdrQos_outside _ _ _ _ _ (by omega))
      rw [hkeep, hdrCtl_zero _ _ _ _ _ (by omega)]
  have hlt : 0xfff0 &&& (seqnum <<< 4) < 2 ^ 16 := by
    rw [Nat.and_comm]
    exact Nat.and_lt_two_pow _ (by norm_num)
  rw [putWlanhdr_eq, setSeqNum, le16_onLe16 _ _ _ (by rw [hzero, Nat.zero_and, Nat.zero_or]; exact hlt), hzero,
    Nat.zero_and, Nat.zero_or]

theorem le16_putWlanhdr_qos (hlen : a.hdrlen = 26) (hflags : a.eosp = 0 ∧ a.ackPolicy = 0) :
    le16 (putWlanhdr m hdr a d seqnum) (hdr + 24) = if d.qosOption then a.priority &&& 0xf else 0 := by
  have hqc : hdr + (a.hdrlen : ℤ) - 2 = hdr + 24 := by omega
  rw [putWlanhdr_eq, setSeqNum, le16_onLe16_of_ne _ _ _ _ (by omega), hdrQos]
  split
  · rw [hqc, le16_putQosCtl, hdrCtl_zero _ _ _ _ _ (by omega), hflags.1, hflags.2]
    simp
  · exact hdrCtl_zero _ _ _ _ _ (by omega)

end Header

end Rtl8723au
