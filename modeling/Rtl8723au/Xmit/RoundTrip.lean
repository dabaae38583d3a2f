import Rtl8723au.Xmit.Dump
import Rtl8723au.Xmit.Received

/-! Transmission and reception of a packet in one MPDU without encryption. -/
namespace Rtl8723au
open Mem Wifi Security
set_option autoImplicit false

/-- The frame `f` holds what `rtw_dump_xframe` sent, in one transfer, of the frame `x`. -/
structure Arrives (padapter : RtwAdapter) (x : XmitFrame) (start : ℤ) (f : RecvFrame) : Prop where
  span : rtwDumpXframe padapter x.attrib = [(start, (f.len : ℤ))]
  bytes : ∀ k < f.len, f.rxDataMem (k : ℕ) = x.mem (start + (k : ℕ))
  tail : f.rxTail = f.rxData + f.len

/-- `wlanhdr_to_ethhdr` turns the frame into the packet. -/
def Restores (peer : RtwAdapter) (f : RecvFrame) (pkt : EthFrame) : Prop :=
  let e := (wlanhdrToEthhdr peer f).run f.rxDataMem
  ∃ ptr, e.val.ptr = some ptr ∧ e.val.frame.rxData = ptr ∧ e.val.frame.len = pkt.data.length ∧
    bytesAt e.st (ptr - f.rxData) pkt.data.length = pkt.data

/-! ## The SNAP header -/

section Snap
variable {m : Mem} {p : ℤ}

theorem toList_bytes {n : ℕ} (v : Vector UInt8 n) (h : bytesAt m p n = v.toList) :
    (Vector.ofFn fun j : Fin n => m (p + ((j : ℕ) : ℤ))) = v := by
  rw [← Vector.toList_inj, Vector.toList_ofFn, ← h, bytesAt]
  apply List.ext_getElem
  · simp
  · intro k hk hk'
    simp

theorem rtwPutSnap_eq (pkt : EthFrame) : rtwPutSnap pkt.etherType =
    (if pkt.etherType = 0x8137 ∨ pkt.etherType = 0x80f3 then rtwBridgeTunnelHeader else rtwRfc1042Header).toList ++
      pkt.hProto.toList := by
  have h0 := pkt.hProto[0].toNat_lt
  have h1 := pkt.hProto[1].toNat_lt
  have hi : UInt8.ofNat (pkt.etherType / 256) = pkt.hProto[0] := by
    apply UInt8.toNat_inj.mp
    rw [UInt8.toNat_ofNat', EthFrame.etherType]
    omega
  have hlo : UInt8.ofNat pkt.etherType = pkt.hProto[1] := by
    apply UInt8.toNat_inj.mp
    rw [UInt8.toNat_ofNat', EthFrame.etherType]
    omega
  have htype : pkt.hProto.toList = [pkt.hProto[0], pkt.hProto[1]] := by
    apply List.ext_getElem
    · simp
    · intro k hk hk'
      have hk2 : k < 2 := hk'
      interval_cases k <;> simp
  rw [rtwPutSnap, hi, hlo, htype]
  split <;> rfl

/-- The receiver removes the header `rtw_put_snap` wrote, of either kind. -/
theorem hasSnapHdr_put (pkt : EthFrame) (h : bytesAt m p 8 = rtwPutSnap pkt.etherType) : HasSnapHdr m p := by
  have hsplit := bytesAt_add (m := m) (p := p) 6 2
  rw [h, rtwPutSnap_eq] at hsplit
  obtain ⟨hsnap, htype⟩ := List.append_inj hsplit (by
    rw [bytesAt_length]
    exact Vector.length_toList)
  have hsnapAt := toList_bytes _ hsnap.symm
  have htypeAt : snapTypeAt m p = pkt.hProto := toList_bytes pkt.hProto htype.symm
  change snapAt m p = _ at hsnapAt
  have hne : ∀ t : Vector UInt8 2, pkt.hProto = t → pkt.etherType = 256 * t[0].toNat + t[1].toNat := by
    rintro t rfl
    rfl
  unfold HasSnapHdr
  rw [hsnapAt, htypeAt]
  by_cases htun : pkt.etherType = 0x8137 ∨ pkt.etherType = 0x80f3
  · rw [if_pos htun]
    exact .inr rfl
  · rw [if_neg htun]
    rw [not_or] at htun
    exact .inl ⟨rfl, fun hipx => htun.1 (hne _ hipx), fun haarp => htun.2 (hne _ haarp)⟩

end Snap

/-! ## The Ethernet header -/

section Ethhdr
variable (peer : RtwAdapter) (f : RecvFrame)

theorem putVec_st {n : ℕ} (p : ℤ) (v : Vector UInt8 n) (m : Mem) :
    ((putVec p v).run m).st = putBytes m p v.toList := by
  rw [putBytes, Vector.length_toList]
  rfl

theorem writeEthhdr_st (b : RxPktAttrib) (len : ℕ) (ptr : ℤ) (m : Mem) :
    ((writeEthhdr b true len ptr).run m).st = putBytes m ptr (b.dst.toList ++ b.src.toList) := by
  have hdst : b.dst.toList.length = 6 := Vector.length_toList
  unfold writeEthhdr
  rw [AccessM.bind_st, AccessM.bind_st, putVec_st, if_pos rfl, AccessM.pure_st, putVec_st, ← putBytes_append, hdst]
  rfl

theorem pullEthhdr_snap (data : ℤ) (rmvLen len : ℕ) (m : Mem) (hmp : peer.checkFwstate WIFI_MP_STATE = false)
    (hroom : f.rxData + (rmvLen - 12) ≤ f.rxTail) :
    let e := (pullEthhdr peer data f rmvLen true len).run m
    e.val.ptr = some (f.rxData + (rmvLen - 12)) ∧ e.val.frame.rxData = f.rxData + (rmvLen - 12) ∧
      e.val.frame.len = uint (f.len - (rmvLen - 12)) ∧
      e.st = putBytes m (f.rxData + (rmvLen - 12) - data) (f.attrib.dst.toList ++ f.attrib.src.toList) := by
  have hsz : (rmvLen : ℤ) - ETH_HLEN + (if true = true then 2 else 0) = rmvLen - 12 := by
    rw [if_pos rfl, ETH_HLEN]
    push_cast
    ring
  have hpull : f.recvframePull (rmvLen - 12) = (some (f.rxData + (rmvLen - 12)),
      { f with rxData := f.rxData + (rmvLen - 12), len := uint (f.len - (rmvLen - 12)) }) :=
    if_neg (by omega)
  unfold pullEthhdr
  rw [if_neg (by rw [hmp]; exact Bool.false_ne_true), hsz, hpull]
  exact ⟨rfl, rfl, rfl, writeEthhdr_st f.attrib len _ m⟩

/-- The conversion of a frame in the clear whose SNAP header is removed. -/
theorem wlanhdrToEthhdr_snap (hmp : peer.checkFwstate WIFI_MP_STATE = false) (henc : f.attrib.encrypt = 0)
    (hiv : f.attrib.ivLen = 0) (hsnap : HasSnapHdr f.rxDataMem f.attrib.hdrlen)
    (htail : f.rxTail = f.rxData + f.len) (h24 : 24 ≤ f.attrib.hdrlen) (hlen : f.attrib.hdrlen + 8 ≤ f.len)
    (hlt : f.len < 2 ^ 32) :
    let e := (wlanhdrToEthhdr peer f).run f.rxDataMem
    e.val.ptr = some (f.rxData + (f.attrib.hdrlen - 6)) ∧ e.val.frame.rxData = f.rxData + (f.attrib.hdrlen - 6) ∧
      (e.val.frame.len : ℤ) = f.len - (f.attrib.hdrlen - 6) ∧
      e.st = putBytes f.rxDataMem (f.attrib.hdrlen - 6) (f.attrib.dst.toList ++ f.attrib.src.toList) := by
  have hicv : pullIcv f = f := if_neg (not_not.mpr henc)
  have hat : ((f.attrib.hdrlen + f.attrib.ivLen : ℕ) : ℤ) = f.attrib.hdrlen := by
    rw [hiv, Nat.add_zero]
  unfold wlanhdrToEthhdr
  rw [hicv]
  dsimp only
  rw [AccessM.bind_val, AccessM.bind_st, AccessM.bind_val, AccessM.bind_st, readBsnaphdr_st, readBsnaphdr_val,
    readVec_st, hat, decide_eq_true hsnap, hiv]
  obtain ⟨hptr, hdata, hlen', hst⟩ := pullEthhdr_snap peer
    (setEthType f ((readVec (f.attrib.hdrlen + 0 + 6 : ℕ) 2).run f.rxDataMem).val) f.rxData
    (f.attrib.hdrlen + 0 + 6) (u16 (f.len - (f.attrib.hdrlen + 0 + 6 : ℕ))) f.rxDataMem hmp
    (by
      show f.rxData + _ ≤ f.rxTail
      omega)
  have hsix : ((f.attrib.hdrlen + 0 + 6 : ℕ) : ℤ) - 12 = f.attrib.hdrlen - 6 := by
    push_cast
    ring
  rw [hsix] at hptr hdata hlen' hst
  refine ⟨hptr, hdata, ?_, ?_⟩
  · have hz : (f.len : ℤ) - (f.attrib.hdrlen - 6) = ((f.len + 6 - f.attrib.hdrlen : ℕ) : ℤ) := by omega
    refine (congrArg Nat.cast hlen').trans ?_
    show ((uint ((f.len : ℤ) - (f.attrib.hdrlen - 6)) : ℕ) : ℤ) = _
    rw [hz, uint_natCast _ (by omega)]
  · refine hst.trans ?_
    show putBytes f.rxDataMem (f.rxData + (f.attrib.hdrlen - 6) - f.rxData) _ = _
    rw [add_sub_cancel_left]
    rfl

end Ethhdr

/-! ## The frame that arrives -/

section Arrival
variable {padapter peer : RtwAdapter} {pkt : EthFrame} {pattrib a : PktAttrib} {m : Mem} {o : CoalesceOutcome}

theorem hdrDir_ends {info : StaInfo} {d : HdrDir} (h : hdrDir padapter a info = some d) :
    (if d.ds = 0x100 then d.addr3 else d.addr1) = a.dst ∧ (if d.ds = 0x200 then d.addr3 else d.addr2) = a.src := by
  unfold hdrDir at h
  split at h
  · cases h
    exact ⟨if_pos rfl, if_neg (by norm_num)⟩
  · split at h
    · cases h
      exact ⟨if_neg (by norm_num), if_pos rfl⟩
    · split at h
      · cases h
        exact ⟨if_neg (by norm_num), if_neg (by norm_num)⟩
      · cases h

theorem Sent.clear_frame (ha : AttribOf padapter pkt pattrib a) {psta : StaId} {d : HdrDir} {s : Frag} {x : XmitFrame}
    (h : Sent padapter pkt a m psta d s x o) (henc : a.encrypt = 0) : o.pxmitframe = ⟨s.pattrib, s.mem⟩ := by
  have hend := h.loopEnd
  have henc' : s.pattrib.encrypt = 0 := by
    rw [hend.attrib]
    exact henc
  have hsw : s.pattrib.bswenc = false := by
    rw [hend.attrib]
    show a.bswenc = false
    rw [ha.bswenc, henc]
    rfl
  have hx : x = ⟨s.pattrib, s.mem⟩ := by
    have hmic := h.addmic
    unfold xmitframeAddmic at hmic
    obtain ⟨p, -, hmic⟩ := Option.bind_eq_some_iff.mp hmic
    rw [if_neg (by rw [henc']; decide)] at hmic
    exact (Option.some.inj hmic).symm
  rw [h.outcome]
  show xmitframeSwencrypt s.padapter x = _
  rw [hx, xmitframeSwencrypt, if_neg (by rw [hsw]; exact Bool.false_ne_true)]

theorem Sent.clear (ha : AttribOf padapter pkt pattrib a) {psta : StaId} {d : HdrDir} {s : Frag} {x : XmitFrame}
    (h : Sent padapter pkt a m psta d s x o) (henc : a.encrypt = 0)
    (hfit : Fits padapter.fragLen a pkt.payload.length) :
    rtwDumpXframe o.padapter o.pxmitframe.attrib =
      [((TXDESC_OFFSET : ℤ), ((a.hdrlen + 8 + pkt.payload.length : ℕ) : ℤ))] ∧
    OneMpdu a d (nextSeqnum (padapter.staInfo psta) a.priority) [] (rtwPutSnap pkt.etherType ++ pkt.payload)
      o.pxmitframe.mem := by
  have hend := h.loopEnd
  obtain ⟨u, -, hnr, hsz⟩ := hend.one hfit
  have hlens := ha.lens
  rw [henc] at hlens
  obtain ⟨hiv, hicv⟩ : a.ivLen = 0 ∧ a.icvLen = 0 := Prod.mk.injEq _ _ _ _ ▸ hlens
  rw [h.clear_frame ha henc]
  constructor
  · rw [rtwDumpXframe_one _ _ hnr, hsz]
    have hroom : icvRoom (sentAttrib padapter a psta) = 0 := by
      show (if a.bswenc then a.icvLen else 0) = 0
      rw [hicv, ite_self]
    rw [hroom]
    show [(_, ((a.hdrlen + a.ivLen + _ + 0 : ℕ) : ℤ))] = _
    rw [hiv, Nat.add_zero, Nat.add_zero, Nat.add_right_comm, Nat.add_assoc]
  · have hone := h.oneMpdu ha hfit
    rw [hiv, List.take_zero] at hone
    exact hone

theorem ethernet_bytes (pkt : EthFrame) {m : Mem} (hdrlen : ℕ)
    (htext : bytesAt m hdrlen (8 + pkt.payload.length) = rtwPutSnap pkt.etherType ++ pkt.payload) :
    bytesAt (putBytes m ((hdrlen : ℤ) - 6) (pkt.hDest.toList ++ pkt.hSource.toList)) ((hdrlen : ℤ) - 6)
      pkt.data.length = pkt.data := by
  have haddrs : (pkt.hDest.toList ++ pkt.hSource.toList).length = 12 := by
    simp only [List.length_append, Vector.length_toList]
  have hlen : pkt.data.length = 12 + (2 + pkt.payload.length) := by
    rw [EthFrame.data_length]
    omega
  have hfront := bytesAt_putBytes (m := m) (p := hdrlen - 6) [] (pkt.hDest.toList ++ pkt.hSource.toList) []
  rw [List.nil_append, List.append_nil, List.length_nil, Nat.cast_zero, add_zero, haddrs] at hfront
  have hback : bytesAt m (hdrlen + 6) (2 + pkt.payload.length) = pkt.hProto.toList ++ pkt.payload := by
    have h8 : 8 + pkt.payload.length = 6 + (2 + pkt.payload.length) := by omega
    rw [h8, bytesAt_add, rtwPutSnap_eq, List.append_assoc] at htext
    refine (List.append_inj htext ?_).2
    rw [bytesAt_length]
    exact Vector.length_toList.symm
  have hbehind : bytesAt (putBytes m ((hdrlen : ℤ) - 6) (pkt.hDest.toList ++ pkt.hSource.toList)) (hdrlen - 6 + 12)
      (2 + pkt.payload.length) = bytesAt m (hdrlen - 6 + 12) (2 + pkt.payload.length) := by
    apply bytesAt_congr
    intro k _
    exact putBytes_outside _ _ _ _ (by rw [haddrs]; omega)
  have haddr : (hdrlen : ℤ) - 6 + 12 = hdrlen + 6 := by ring
  rw [hlen, bytesAt_add, hfront, Nat.cast_ofNat, hbehind, haddr, hback, EthFrame.data,
    List.append_assoc (_ ++ _)]

/-- The receive path makes the packet out of a frame with its header and its text. -/
theorem restores_of (hshape : HdrShape a) (hmdata : a.mdata = false) (hprio : a.priority < 8) (henc : a.encrypt = 0)
    {d : HdrDir} (hds : d.ds = 0 ∨ d.ds = 0x100 ∨ d.ds = 0x200) {seqnum : ℕ} (f : RecvFrame)
    (hhdr : HdrOf a d seqnum f.rxDataMem 0)
    (htext : bytesAt f.rxDataMem a.hdrlen (8 + pkt.payload.length) = rtwPutSnap pkt.etherType ++ pkt.payload)
    (hlen : f.len = a.hdrlen + 8 + pkt.payload.length) (htail : f.rxTail = f.rxData + f.len)
    (hdst : (if d.ds = 0x100 then d.addr3 else d.addr1) = pkt.hDest)
    (hsrc : (if d.ds = 0x200 then d.addr3 else d.addr2) = pkt.hSource)
    (hmp : peer.checkFwstate WIFI_MP_STATE = false) (psta : StaId) : Restores peer (parsedFrame peer psta f) pkt := by
  have hattrib := hhdr.dataAttrib hshape hmdata hprio hds f.attrib
  have hpay := pkt.payload_lt
  have hdrlen := hshape.hdrlen_cases
  generalize hg : parsedFrame peer psta f = g
  have hmem : g.rxDataMem = f.rxDataMem := by rw [← hg]; rfl
  have hgdata : g.rxData = f.rxData := by rw [← hg]; rfl
  have hgtail : g.rxTail = f.rxTail := by rw [← hg]; rfl
  have hglen : g.len = f.len := by rw [← hg]; rfl
  have hcipher : g.attrib = { dataAttrib f.rxDataMem (dataFrame f).attrib with encrypt := 0, ivLen := 0, icvLen := 0 } := by
    rw [← hg]
    show setCipher peer psta _ = _
    have hpriv : (dataAttrib f.rxDataMem (dataFrame f).attrib).privacy = false := by
      refine hattrib.privacy.trans ?_
      rw [henc]
      rfl
    exact if_neg (by rw [hpriv]; exact Bool.false_ne_true)
  have hghdr : g.attrib.hdrlen = a.hdrlen := by rw [hcipher]; exact hattrib.hdrlen
  have hgdst : g.attrib.dst = pkt.hDest := by rw [hcipher]; exact hattrib.dst.trans hdst
  have hgsrc : g.attrib.src = pkt.hSource := by rw [hcipher]; exact hattrib.src.trans hsrc
  have hsnap : HasSnapHdr g.rxDataMem g.attrib.hdrlen := by
    rw [hmem, hghdr]
    apply hasSnapHdr_put pkt
    rw [bytesAt_add] at htext
    exact (List.append_inj htext (by rw [bytesAt_length]; rfl)).1
  obtain ⟨hptr, hdata, hlen', hst⟩ := wlanhdrToEthhdr_snap peer g hmp (by rw [hcipher]) (by rw [hcipher]) hsnap
    (by rw [hgtail, hgdata, hglen, htail]) (by omega) (by omega) (by omega)
  refine ⟨_, hptr, hdata, ?_, ?_⟩
  · have hz := pkt.data_length
    omega
  · rw [hst, add_sub_cancel_left, hghdr, hgdst, hgsrc, hmem]
    exact ethernet_bytes pkt a.hdrlen htext

/-- **A packet survives transmission and reception** in one MPDU without encryption: the frame the header
is parsed from, and the one validation passes on, convert to it. -/
theorem coalesce_restores (junk : UInt8) (ha : updateAttrib padapter junk pkt pattrib = some a)
    (henc : a.encrypt = 0) (hfit : Fits padapter.fragLen a pkt.payload.length)
    (hrun : rtwXmitframeCoalesce padapter pkt ⟨a, m⟩ = some o) (hret : o.ret = true)
    (hmp : peer.checkFwstate WIFI_MP_STATE = false) (start : ℤ) (f : RecvFrame)
    (hf : Arrives o.padapter o.pxmitframe start f) :
    (∀ psta, Restores peer (parsedFrame peer psta f) pkt) ∧
      (((validateRecvFrame peer f).run f.rxDataMem).val.1 = .success →
        Restores peer ((validateRecvFrame peer f).run f.rxDataMem).val.2.1 pkt) := by
  have hof := updateAttrib_spec padapter junk pkt pattrib a ha
  obtain ⟨psta, d, s, x, hsent⟩ := coalesce_sent hof hrun hret
  obtain ⟨hspan, hone⟩ := hsent.clear hof henc hfit
  have hdrlen := hof.shape.hdrlen_cases
  have harr := hf.span
  rw [hspan, List.cons.injEq, Prod.mk.injEq] at harr
  obtain ⟨⟨hstart, hlen⟩, -⟩ := harr
  have hbytes := hf.bytes
  rw [← hstart] at hbytes
  have hlen' : f.len = a.hdrlen + 8 + pkt.payload.length := by omega
  have hhdr : HdrOf a d (nextSeqnum (padapter.staInfo psta) a.priority) f.rxDataMem 0 := by
    refine hone.header.copy (by omega) fun k hk => ?_
    rw [zero_add]
    exact hbytes k (by omega)
  have htext : bytesAt f.rxDataMem a.hdrlen (8 + pkt.payload.length) = rtwPutSnap pkt.etherType ++ pkt.payload := by
    have hsame := hone.text
    rw [List.length_append, rtwPutSnap_length, ← hone.ivLen, List.length_nil, Nat.cast_zero, add_zero] at hsame
    rw [← hsame]
    apply List.map_congr_left
    intro k hk
    have hk' := List.mem_range.mp hk
    have hbyte := hbytes (a.hdrlen + k) (by omega)
    rw [Nat.cast_add, ← add_assoc] at hbyte
    exact hbyte
  obtain ⟨hdst, hsrc⟩ := hdrDir_ends hsent.dir
  rw [hof.dst] at hdst
  rw [hof.src] at hsrc
  have hall := restores_of hof.shape hof.flags.1 hof.priority henc (hdrDir_ds hsent.dir) f hhdr htext hlen' hf.tail
    hdst hsrc hmp
  refine ⟨hall, fun hv => ?_⟩
  obtain ⟨psta', heq⟩ := validateRecvFrame_parsed peer f hmp hv
  rw [heq]
  exact hall psta'

end Arrival

/-! ## A packet to an access point -/

/-- A receive frame with the bytes of a transfer. -/
def receivedFrame (x : XmitFrame) (start : ℤ) (n : ℕ) : RecvFrame where
  mem i := x.mem (start + i)
  len := n
  rxHead := 0
  rxData := 0
  rxTail := n
  rxEnd := n

theorem arrives_receivedFrame (q : RtwAdapter) (x : XmitFrame) (start : ℤ) (n : ℕ)
    (h : rtwDumpXframe q x.attrib = [(start, (n : ℤ))]) : Arrives q x start (receivedFrame x start n) := by
  refine ⟨h, fun k _ => ?_, (zero_add _).symm⟩
  show x.mem (start + (0 + k)) = _
  rw [zero_add]

def apPeer : RtwAdapter := { fwState := WIFI_AP_STATE }

theorem coalesce_restores_station : ∃ (a : PktAttrib) (o : CoalesceOutcome) (f : RecvFrame),
    updateAttrib (stationAdapter {} {} 2346) 0 (zeroEth 10 (by decide)) {} = some a ∧
    Arrives o.padapter o.pxmitframe TXDESC_OFFSET f ∧
    ((∀ psta, Restores apPeer (parsedFrame apPeer psta f) (zeroEth 10 (by decide))) ∧
      (((validateRecvFrame apPeer f).run f.rxDataMem).val.1 = .success →
        Restores apPeer ((validateRecvFrame apPeer f).run f.rxDataMem).val.2.1 (zeroEth 10 (by decide)))) := by
  obtain ⟨a, ha, henc, hsta, hfit⟩ : ∃ a,
      updateAttrib (stationAdapter {} {} 2346) 0 (zeroEth 10 (by decide)) {} = some a ∧ a.encrypt = 0 ∧
      xmitSta (stationAdapter {} {} 2346) a = some 0 ∧
      Fits (stationAdapter {} {} 2346).fragLen a (zeroEth 10 (by decide)).payload.length :=
    ⟨_, rfl, rfl, rfl, by decide⟩
  have hof := updateAttrib_spec _ _ _ _ _ ha
  obtain ⟨o, hrun, hret⟩ := coalesce_succeeds (m := fun _ => 0) hof 0 _ hsta rfl
    fun hk => absurd (henc.symm.trans hk) (by decide)
  obtain ⟨psta, d, s, x, hsent⟩ := coalesce_sent hof hrun hret
  obtain ⟨hspan, -⟩ := hsent.clear hof henc hfit
  have harr := arrives_receivedFrame o.padapter o.pxmitframe TXDESC_OFFSET _ hspan
  exact ⟨a, o, _, ha, harr, coalesce_restores 0 ha henc hfit hrun hret (by decide) TXDESC_OFFSET _ harr⟩

end Rtl8723au
