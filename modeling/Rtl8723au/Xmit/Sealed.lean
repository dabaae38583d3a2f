import Rtl8723au.Security.DecryptVerified
import Rtl8723au.Xmit.Addmic
import Rtl8723au.Xmit.PacketNumber

/-! One MPDU under WEP or TKIP: what `rtw_wep_encrypt` and `rtw_tkip_encrypt` make of it, and that the
peer's `rtw_wep_decrypt` and `rtw_tkip_decrypt` undo it. -/
namespace Rtl8723au
open Mem Wifi Security
set_option autoImplicit false

/-! ## RC4 both ways -/

section Rc4
variable (key : List UInt8) {p p' : ℤ} {n : ℕ} {m m' : Mem}

/-- The bytes from `p` on are the text and its CRC-32, low byte first. -/
structure Opened (l : List UInt8) (m : Mem) (p : ℤ) : Prop where
  text : bytesAt m p l.length = l
  icv : ∀ k < 4, m (p + l.length + (k : ℕ)) = byteOf (Crc32.crc32 l) k

/-- **Decrypting a copy of a sealed stretch opens it**, whether the payload and the ICV were encrypted
together or not, and the ICV is found right. -/
theorem arcfourSeal_opens (text : List UInt8) (hn : text.length < 2 ^ 30 + 64) (htext : bytesAt m p text.length = text)
    (hcopy : ∀ k < text.length + 4, m' (p' + (k : ℕ)) = ((arcfourSeal key p text.length).run m).st (p + (k : ℕ))) :
    Opened text (rc4Mem key p' (text.length + 4 : ℕ) m') p' ∧ rc4Verdict key p' (text.length + 4 : ℕ) m' = true := by
  obtain ⟨hmem, hverdict⟩ := arcfourDecrypt_spec key p' (text.length + 4 : ℕ) m' (by omega)
  have hplain : ∀ k < text.length + 4, rc4Mem key p' (text.length + 4 : ℕ) m' (p' + (k : ℕ)) =
      sealedPlain m p text.length k := by
    intro k hk
    rw [hmem, uint_natCast _ (by omega), patch_inside _ _ _ _ _ hk, hcopy k hk, arcfourSeal_st _ _ _ _ (by omega),
      patch_inside _ _ _ _ _ hk]
    exact rc4_cancel _ _
  have hbytes : bytesAt (rc4Mem key p' (text.length + 4 : ℕ) m') p' text.length = text := by
    rw [← htext, bytesAt_length]
    apply List.map_congr_left
    intro k hk
    have hk' := List.mem_range.mp hk
    rw [hplain k (by omega), sealedPlain, if_pos hk']
  have hicv : ∀ k < 4, rc4Mem key p' (text.length + 4 : ℕ) m' (p' + text.length + (k : ℕ)) =
      byteOf (Crc32.crc32 text) k := by
    intro k hk
    have haddr : p' + (text.length : ℤ) + (k : ℕ) = p' + ((text.length + k : ℕ) : ℤ) := by
      push_cast
      ring
    rw [haddr, hplain (text.length + k) (by omega), sealedPlain, if_neg (by omega), Nat.add_sub_cancel_left, htext]
  refine ⟨⟨hbytes, hicv⟩, hverdict.mpr fun k hk => ?_⟩
  have hend : p' + ((text.length + 4 : ℕ) : ℤ) - 4 + (k : ℕ) = p' + text.length + (k : ℕ) := by
    push_cast
    ring
  have hsub : (((text.length + 4 : ℕ) : ℤ) - 4).toNat = text.length := by omega
  rw [hend, hsub, hbytes]
  exact hicv k hk

theorem arcfourSeal_outside (x : ℤ) (hn : n < 2 ^ 32) (h : x < p) :
    ((arcfourSeal key p n).run m).st x = m x := by
  rw [arcfourSeal_st _ _ _ _ hn]
  exact patch_outside _ _ _ _ _ (.inl h)

end Rc4

/-! ## The MPDU before encryption -/

/-- The frame `x` is one MPDU with this text, ready for software encryption. -/
structure ReadyMpdu (a : PktAttrib) (d : HdrDir) (seqnum : ℕ) (iv text : List UInt8) (x : XmitFrame) : Prop where
  mpdu : OneMpdu a d seqnum iv text x.mem
  attrib : ∃ sn v, x.attrib = { a with
    seqnum := sn, iv := v, nrFrags := 1, lastTxcmdsz := a.hdrlen + a.ivLen + text.length + icvRoom a }

section Ready
variable {padapter : RtwAdapter} {pkt : EthFrame} {pattrib a : PktAttrib} {m : Mem} {o : CoalesceOutcome}
  {psta : StaId} {d : HdrDir} {s : Frag} {x : XmitFrame}

theorem Sent.ready_attrib (h : Sent padapter pkt a m psta d s x o) (hfit : Fits padapter.fragLen a pkt.payload.length) :
    ∃ sn v, s.pattrib = { a with
      seqnum := sn, iv := v, nrFrags := 1
      lastTxcmdsz := a.hdrlen + a.ivLen + (rtwPutSnap pkt.etherType ++ pkt.payload).length + icvRoom a } := by
  have hend := h.loopEnd
  obtain ⟨u, -, hnr, hsz⟩ := hend.one hfit
  refine ⟨(sentAttrib padapter a psta).seqnum, s.pattrib.iv, ?_⟩
  rw [hend.attrib, hnr, hsz, List.length_append, rtwPutSnap_length, Nat.add_comm 8]
  rfl

theorem Sent.ready (ha : AttribOf padapter pkt pattrib a) (h : Sent padapter pkt a m psta d s x o)
    (hfit : Fits padapter.fragLen a pkt.payload.length) (hne : a.encrypt ≠ TKIP) :
    ReadyMpdu a d (nextSeqnum (padapter.staInfo psta) a.priority) (s.pattrib.iv.toList.take a.ivLen)
      (rtwPutSnap pkt.etherType ++ pkt.payload) x := by
  have hend := h.loopEnd
  have hx : x = ⟨s.pattrib, s.mem⟩ := by
    have henc : s.pattrib.encrypt ≠ TKIP := by
      rw [hend.attrib]
      exact hne
    have hmic := h.addmic
    unfold xmitframeAddmic at hmic
    obtain ⟨p, -, hmic⟩ := Option.bind_eq_some_iff.mp hmic
    rw [if_neg henc] at hmic
    exact (Option.some.inj hmic).symm
  rw [hx]
  exact ⟨h.oneMpdu ha hfit, h.ready_attrib hfit⟩

theorem Sent.ready_tkip (ha : AttribOf padapter pkt pattrib a) (h : Sent padapter pkt a m psta d s x o)
    (hfit : Fits padapter.fragLen a pkt.payload.length) (htkip : a.encrypt = TKIP) : ∃ mic, mic.length = 8 ∧
    ReadyMpdu a d (nextSeqnum (padapter.staInfo psta) a.priority) (s.pattrib.iv.toList.take a.ivLen)
      (rtwPutSnap pkt.etherType ++ pkt.payload ++ mic) x := by
  have hend := h.loopEnd
  have hlen : 24 ≤ a.hdrlen := by
    obtain h | h := ha.shape.hdrlen_cases <;> omega
  have henc : s.pattrib.encrypt = TKIP := by
    rw [hend.attrib]
    exact htkip
  obtain ⟨p, key, -, -, hg⟩ := xmitframeAddmic_tkip s.padapter ⟨s.pattrib, s.mem⟩ henc h.addmic
  have hmic := h.micMpdu ha hfit key hg
  have hone := hmic.frame
  have hplace := hmic.place
  generalize addmicWalk s.padapter ⟨s.pattrib, s.mem⟩ key = w at hg hmic hplace
  refine ⟨rtwSecgetmic w.2, rfl, ?_, ?_⟩
  · have hbefore : ∀ (q : ℤ) (n : ℕ), q + n ≤ w.1 → bytesAt x.mem q n = bytesAt s.mem q n := by
      intro q n hq
      apply bytesAt_congr
      intro k hk
      rw [hmic.mem]
      exact putBytes_outside _ _ _ _ (.inl (by omega))
    refine ⟨hmic.header hlen, hone.ivLen, ?_, ?_⟩
    · have hiv := hone.ivLen
      dsimp only at hiv
      rw [hbefore _ _ (by omega)]
      exact hone.iv
    · rw [List.length_append, length_getmic, bytesAt_add, hbefore _ _ (by omega), hone.text, ← hplace, hmic.code]
  · obtain ⟨sn, v, hattrib⟩ := h.ready_attrib hfit
    refine ⟨sn, v, ?_⟩
    have hsize : (rtwPutSnap pkt.etherType ++ pkt.payload ++ rtwSecgetmic w.2).length =
        (rtwPutSnap pkt.etherType ++ pkt.payload).length + 8 := by
      rw [List.length_append, length_getmic]
    rw [hg]
    show addLastTxcmdsz s.pattrib 8 = _
    rw [hattrib, hsize]
    dsimp only [addLastTxcmdsz]
    congr 1
    omega

end Ready

/-! ## The MPDU behind encryption -/

section Sealing
variable {a : PktAttrib} {d : HdrDir} {seqnum : ℕ} {iv text : List UInt8} {x : XmitFrame} {q : RtwAdapter}

theorem ReadyMpdu.fragLength (h : ReadyMpdu a d seqnum iv text x) (hsw : a.bswenc = true) (fragLen : ℕ) :
    x.attrib.nrFrags = 1 ∧ fragLength fragLen x.attrib 0 = text.length := by
  obtain ⟨sn, v, hattrib⟩ := h.attrib
  have hroom : icvRoom a = a.icvLen := by
    rw [icvRoom, if_pos hsw]
  rw [hattrib, hroom]
  refine ⟨rfl, ?_⟩
  unfold Security.fragLength
  rw [if_pos rfl]
  push_cast
  ring

/-- `rtw_wep_encrypt` on one MPDU. -/
theorem ReadyMpdu.wep (h : ReadyMpdu a d seqnum iv text x) (hsw : a.bswenc = true)
    (hw : a.encrypt = WEP40 ∨ a.encrypt = WEP104) : (xmitframeSwencrypt q x).attrib = x.attrib ∧
      (xmitframeSwencrypt q x).mem = ((arcfourSeal (((readVec (TXDESC_OFFSET + a.hdrlen) 3).run x.mem).val.toList ++
        wepDefKey q.securitypriv q.securitypriv.dot11PrivacyKeyIndex)
        (TXDESC_OFFSET + a.ivLen + a.hdrlen) text.length).run x.mem).st := by
  obtain ⟨hone, hlen⟩ := h.fragLength hsw q.fragLen
  obtain ⟨sn, v, hattrib⟩ := h.attrib
  have henc : x.attrib.encrypt = a.encrypt := by rw [hattrib]
  have hdr : x.attrib.hdrlen = a.hdrlen ∧ x.attrib.ivLen = a.ivLen := by
    rw [hattrib]
    exact ⟨rfl, rfl⟩
  have hsw' : x.attrib.bswenc = true := by
    rw [hattrib]
    exact hsw
  have hrun : xmitframeSwencrypt q x = { x with mem := ((rtwWepEncrypt q x.attrib).run x.mem).st } := by
    unfold xmitframeSwencrypt
    rw [if_pos hsw', henc]
    obtain hw | hw := hw <;> rw [hw] <;> rfl
  rw [hrun]
  refine ⟨rfl, ?_⟩
  show ((rtwWepEncrypt q x.attrib).run x.mem).st = _
  unfold rtwWepEncrypt
  rw [if_pos (henc ▸ hw), hone, AccessM.loop_succ_st, AccessM.loop_zero, AccessM.pure_st, hlen]
  unfold wepFrag
  rw [AccessM.bind_st, readVec_st, hdr.1, hdr.2]
  rfl

/-- `rtw_tkip_encrypt` on one MPDU. -/
theorem ReadyMpdu.tkip (h : ReadyMpdu a d seqnum iv text x) (hsw : a.bswenc = true) (htkip : a.encrypt = TKIP)
    (prwskey : Skey) (hkey : xmitPrwskey q x.attrib = some prwskey) : (xmitframeSwencrypt q x).attrib = x.attrib ∧
      (xmitframeSwencrypt q x).mem = ((arcfourSeal (tkipRc4key prwskey a.ta
        ((readVec (TXDESC_OFFSET + a.hdrlen) 8).run x.mem).val).toList
        (TXDESC_OFFSET + a.ivLen + a.hdrlen) text.length).run x.mem).st := by
  obtain ⟨hone, hlen⟩ := h.fragLength hsw q.fragLen
  obtain ⟨sn, v, hattrib⟩ := h.attrib
  have henc : x.attrib.encrypt = TKIP := by
    rw [hattrib]
    exact htkip
  have hdr : x.attrib.hdrlen = a.hdrlen ∧ x.attrib.ivLen = a.ivLen ∧ x.attrib.ta = a.ta := by
    rw [hattrib]
    exact ⟨rfl, rfl, rfl⟩
  have hsw' : x.attrib.bswenc = true := by
    rw [hattrib]
    exact hsw
  have hrun : xmitframeSwencrypt q x = { x with mem := ((rtwTkipEncrypt q x.attrib).run x.mem).st } := by
    unfold xmitframeSwencrypt
    rw [if_pos hsw', henc]
    rfl
  rw [hrun]
  refine ⟨rfl, ?_⟩
  show ((rtwTkipEncrypt q x.attrib).run x.mem).st = _
  unfold rtwTkipEncrypt
  rw [if_pos henc, hkey]
  dsimp only
  rw [hone, AccessM.loop_succ_st, AccessM.loop_zero, AccessM.pure_st, hlen]
  unfold tkipFrag
  rw [AccessM.bind_st, readVec_st, hdr.1, hdr.2.1, hdr.2.2]
  rfl

/-- The peer's copy of a sealed MPDU. -/
structure SealedCopy (a : PktAttrib) (d : HdrDir) (seqnum : ℕ) (iv text key : List UInt8) (f : RecvFrame) : Prop where
  header : HdrOf a d seqnum f.rxDataMem 0
  ivLen : iv.length = a.ivLen
  iv : bytesAt f.rxDataMem a.hdrlen iv.length = iv
  len : f.len = a.hdrlen + a.ivLen + text.length + 4
  opened : Opened text (rc4Mem key (a.ivLen + a.hdrlen) (text.length + 4 : ℕ) f.rxDataMem) (a.ivLen + a.hdrlen)
  verdict : rc4Verdict key (a.ivLen + a.hdrlen) (text.length + 4 : ℕ) f.rxDataMem = true

theorem ReadyMpdu.sealedCopy (h : ReadyMpdu a d seqnum iv text x) (hlen : 24 ≤ a.hdrlen)
    (htext : text.length < 2 ^ 30 + 64) (key : List UInt8) (f : RecvFrame)
    (hflen : f.len = a.hdrlen + a.ivLen + text.length + 4)
    (hcopy : ∀ k < f.len, f.rxDataMem (k : ℕ) = ((arcfourSeal key
      (TXDESC_OFFSET + a.ivLen + a.hdrlen) text.length).run x.mem).st (TXDESC_OFFSET + (k : ℕ))) :
    SealedCopy a d seqnum iv text key f := by
  have hmpdu := h.mpdu
  have hiv := hmpdu.ivLen
  have hfront : ∀ k < a.hdrlen + a.ivLen, f.rxDataMem (k : ℕ) = x.mem (TXDESC_OFFSET + (k : ℕ)) := by
    intro k hk
    rw [hcopy k (by omega), arcfourSeal_outside _ _ (by omega) (by omega)]
  have hplain : bytesAt x.mem (TXDESC_OFFSET + a.ivLen + a.hdrlen) text.length = text := by
    have htxt := hmpdu.text
    rw [add_right_comm] at htxt
    exact htxt
  have hbody : ∀ k < text.length + 4, f.rxDataMem ((a.ivLen : ℤ) + a.hdrlen + (k : ℕ)) =
      ((arcfourSeal key (TXDESC_OFFSET + a.ivLen + a.hdrlen) text.length).run x.mem).st
        (TXDESC_OFFSET + a.ivLen + a.hdrlen + (k : ℕ)) := by
    intro k hk
    have hbyte := hcopy (a.ivLen + a.hdrlen + k) (by omega)
    have haddr : (TXDESC_OFFSET : ℤ) + ((a.ivLen + a.hdrlen + k : ℕ) : ℤ) = TXDESC_OFFSET + a.ivLen + a.hdrlen + k := by
      push_cast
      ring
    rw [haddr, Nat.cast_add, Nat.cast_add] at hbyte
    exact hbyte
  obtain ⟨hopen, hverdict⟩ := arcfourSeal_opens key text htext hplain hbody
  refine ⟨hmpdu.header.copy hlen ?_, hiv, ?_, hflen, hopen, hverdict⟩
  · intro k hk
    rw [zero_add]
    exact hfront k (by omega)
  · have hsame := hmpdu.iv
    conv_rhs => rw [← hsame]
    apply List.map_congr_left
    intro k hk
    have hk' := List.mem_range.mp hk
    have hbyte := hfront (a.hdrlen + k) (by omega)
    rw [Nat.cast_add, ← add_assoc] at hbyte
    exact hbyte

end Sealing

/-! ## The transmitter address -/

/-- An access point is not in an ad hoc cell. -/
def OneMode (padapter : RtwAdapter) : Prop :=
  padapter.checkFwstate WIFI_AP_STATE = true →
    padapter.checkFwstate WIFI_ADHOC_STATE = false ∧ padapter.checkFwstate WIFI_ADHOC_MASTER_STATE = false

section Address
variable {padapter : RtwAdapter} {junk : UInt8} {pkt : EthFrame} {pattrib a : PktAttrib}

theorem updateAttrib_ta (h : updateAttrib padapter junk pkt pattrib = some a) :
    a.ta = (attribAddrs padapter pkt pattrib).ta := by
  unfold updateAttrib at h
  obtain ⟨p, -, h⟩ := Option.bind_eq_some_iff.mp h
  obtain ⟨a1, henc, h⟩ := Option.bind_eq_some_iff.mp h
  obtain ⟨a2, hlens, h⟩ := Option.bind_eq_some_iff.mp h
  cases h
  obtain ⟨encrypt, keyIdx, rfl⟩ := attribEncrypt_eq padapter _ a1 _ henc
  obtain ⟨hdrlen, subtype, priority, hq, -, -⟩ := attribQos_eq padapter junk pkt { attribAddrs padapter pkt pattrib with
    pktlen := pkt.payload.length, macId := (padapter.staInfo p).macId, psta := some p } (padapter.staInfo p)
  have ha2 := attribLens_eq padapter _ a2 hlens
  have hta : a2.ta = (attribQos padapter junk pkt { attribAddrs padapter pkt pattrib with
      pktlen := pkt.payload.length, macId := (padapter.staInfo p).macId, psta := some p } (padapter.staInfo p)).ta := by
    rw [ha2]
  refine Eq.trans (?_ : _ = a2.ta) (hta.trans ?_)
  · rfl
  · rw [hq]

/-- The header carries the transmitter address the key is mixed with. -/
theorem hdrDir_ta (h : updateAttrib padapter junk pkt pattrib = some a) (hmode : OneMode padapter) {info : StaInfo}
    {d : HdrDir} (hd : hdrDir padapter a info = some d) : d.addr2 = a.ta := by
  have hta := updateAttrib_ta h
  have hsrc := (updateAttrib_spec padapter junk pkt pattrib a h).src
  unfold attribAddrs at hta
  dsimp only at hta
  unfold hdrDir at hd
  by_cases hadhoc : (padapter.checkFwstate WIFI_ADHOC_STATE || padapter.checkFwstate WIFI_ADHOC_MASTER_STATE) = true
  · rw [if_pos hadhoc] at hta
    have hap : ¬ padapter.checkFwstate WIFI_AP_STATE = true := by
      intro hap
      obtain ⟨h1, h2⟩ := hmode hap
      rw [h1, h2] at hadhoc
      exact Bool.false_ne_true hadhoc
    rw [if_neg hap, if_pos hadhoc] at hd
    split at hd <;> cases hd <;> exact hsrc.trans hta.symm
  · rw [if_neg hadhoc] at hta hd
    split at hd
    · rename_i hsta
      rw [if_pos hsta] at hta
      cases hd
      exact hsrc.trans hta.symm
    · rename_i hsta
      rw [if_neg hsta] at hta
      split at hd
      · rename_i hap
        rw [if_pos hap] at hta
        cases hd
        exact hta.symm
      · cases hd

end Address

/-! ## The peer -/

section Peer
variable {a : PktAttrib} {d : HdrDir} {seqnum : ℕ} {iv text key : List UInt8} {f : RecvFrame} {peer : RtwAdapter}
  {psta : StaId}

/-- The frame as its header is parsed, with the key index of its IV. -/
def peerFrame (peer : RtwAdapter) (psta : StaId) (f : RecvFrame) : RecvFrame :=
  keyed peer (parsedFrame peer psta f)

/-- What the peer knows of the frame when it decrypts it. -/
structure PeerAttrib (a : PktAttrib) (d : HdrDir) (b : RxPktAttrib) : Prop where
  hdrlen : b.hdrlen = a.hdrlen
  ivLen : b.ivLen = a.ivLen
  ta : b.ta = d.addr2
  encrypt : b.encrypt = a.encrypt

theorem SealedCopy.peerAttrib (h : SealedCopy a d seqnum iv text key f) (hshape : HdrShape a)
    (hmdata : a.mdata = false) (hprio : a.priority < 8) (hds : d.ds = 0 ∨ d.ds = 0x100 ∨ d.ds = 0x200)
    (hlens : (a.ivLen, a.icvLen) = ivIcvLen a.encrypt)
    (hcipher : a.encrypt = WEP40 ∨ a.encrypt = WEP104 ∨ a.encrypt = TKIP)
    (henc : (parsedFrame peer psta f).attrib.encrypt = a.encrypt) :
    PeerAttrib a d (peerFrame peer psta f).attrib := by
  have hread := h.header.dataAttrib hshape hmdata hprio hds f.attrib
  have hne : a.encrypt ≠ 0 := by
    obtain h | h | h := hcipher <;> rw [h] <;> decide
  have hattrib : (parsedFrame peer psta f).attrib =
      setCipher peer psta (Rtl8723au.dataAttrib f.rxDataMem (dataFrame f).attrib) := rfl
  have hpriv : (Rtl8723au.dataAttrib f.rxDataMem (dataFrame f).attrib).privacy = true :=
    hread.privacy.trans (bne_iff_ne.mpr hne)
  rw [setCipher, if_pos hpriv] at hattrib
  rw [hattrib] at henc
  dsimp only at henc
  have hivLen : (setIceIvLen a.encrypt).1 = a.ivLen := by
    obtain hc | hc | hc := hcipher <;> rw [hc, Prod.mk.injEq] at hlens <;> rw [hc, hlens.1] <;> rfl
  have hkeyed : (peerFrame peer psta f).attrib = { (parsedFrame peer psta f).attrib with
      keyIndex := decryptorKeyIndex peer (parsedFrame peer psta f) } := rfl
  rw [hkeyed, hattrib]
  refine ⟨hread.hdrlen, ?_, hread.ta, henc⟩
  dsimp only
  rw [henc, hivLen]

theorem SealedCopy.payloadLength (h : SealedCopy a d seqnum iv text key f) (htext : text.length < 2 ^ 30 + 64)
    (hsmall : a.hdrlen + a.ivLen < 2 ^ 20) {b : RxPktAttrib} (hb : PeerAttrib a d b) :
    payloadLength b f.len = ((text.length + 4 : ℕ) : ℤ) := by
  have hlen := h.len
  rw [payloadLength_eq _ _ (by omega) (by rw [hb.hdrlen, hb.ivLen]; omega), hb.hdrlen, hb.ivLen]
  omega

theorem readVec_congr {m m' : Mem} {p p' : ℤ} (n : ℕ) (hm : bytesAt m p iv.length = iv)
    (hm' : bytesAt m' p' iv.length = iv) (hn : n ≤ iv.length) :
    ((readVec p n).run m).val = ((readVec p' n).run m').val := by
  rw [readVec_val, readVec_val]
  congr 1
  funext j
  have hj : (j : ℕ) < iv.length := lt_of_lt_of_le j.isLt hn
  rw [getD_bytesAt p hm _ hj, getD_bytesAt p' hm' _ hj]

/-- The packet number both sides mix into the key: the one `tkipFrag` takes from the IV of `x`, and the one
read back from the IV of `g`. -/
structure TkipNumber (x : XmitFrame) (g : RecvFrame) (prwskey : Skey) (pn : ℕ) : Prop where
  sent : tkipRc4key prwskey x.attrib.ta ((readVec (TXDESC_OFFSET + x.attrib.hdrlen) 8).run x.mem).val =
    phase2 prwskey (phase1 prwskey x.attrib.ta (UInt32.ofNat (pn / 2 ^ 16))) (UInt16.ofNat pn)
  back : getTkipPn (bytesAt g.rxDataMem g.attrib.hdrlen 8) = pn
  ta : g.attrib.ta = x.attrib.ta

/-- What the peer's routines make of the frame `g`, when they have the key it was encrypted with. -/
structure Unsealed (q : RtwAdapter) (x : XmitFrame) (peer : RtwAdapter) (g : RecvFrame) (text : List UInt8) (pn : ℕ) :
    Prop where
  len : g.len = g.attrib.hdrlen + g.attrib.ivLen + text.length + 4
  wep : g.attrib.encrypt ≠ TKIP →
    wepSecret peer g.attrib = wepDefKey q.securitypriv q.securitypriv.dot11PrivacyKeyIndex →
    Opened text ((rtwWepDecrypt peer g.attrib g.len).run g.rxDataMem).st (g.attrib.ivLen + g.attrib.hdrlen)
  tkip : g.attrib.encrypt = TKIP → ∀ prwskey, xmitPrwskey q x.attrib = some prwskey →
    tkipPrwskey peer g.attrib = some prwskey →
    Opened text ((rtwTkipDecrypt peer g.attrib g.len).run g.rxDataMem).st (g.attrib.ivLen + g.attrib.hdrlen) ∧
      ((rtwTkipDecrypt peer g.attrib g.len).run g.rxDataMem).val = true ∧ TkipNumber x g prwskey pn

section Unsealing
variable {x : XmitFrame} {q : RtwAdapter} {pn : ℕ}

/-- **The peer undoes WEP.** -/
theorem ReadyMpdu.unsealed_wep (h : ReadyMpdu a d seqnum iv text x) (hshape : HdrShape a) (hmdata : a.mdata = false)
    (hprio : a.priority < 8) (hds : d.ds = 0 ∨ d.ds = 0x100 ∨ d.ds = 0x200)
    (hlens : (a.ivLen, a.icvLen) = ivIcvLen a.encrypt) (hsw : a.bswenc = true)
    (hw : a.encrypt = WEP40 ∨ a.encrypt = WEP104) (htext : text.length < 2 ^ 30 + 64)
    (hflen : f.len = a.hdrlen + a.ivLen + text.length + 4)
    (hcopy : ∀ k < f.len, f.rxDataMem (k : ℕ) = (xmitframeSwencrypt q x).mem (TXDESC_OFFSET + (k : ℕ)))
    (henc : (parsedFrame peer psta f).attrib.encrypt = a.encrypt) :
    Unsealed q x peer (peerFrame peer psta f) text pn := by
  have hlen := hshape.hdrlen_cases
  have hiv4 : a.ivLen = 4 := by
    obtain hw | hw := hw <;> rw [hw, Prod.mk.injEq] at hlens <;> exact hlens.1
  obtain ⟨-, hmem⟩ := h.wep (q := q) hsw hw
  rw [hmem] at hcopy
  have hcopied := h.sealedCopy (by omega) htext _ f hflen hcopy
  have hattrib : PeerAttrib a d (peerFrame peer psta f).attrib :=
    hcopied.peerAttrib hshape hmdata hprio hds hlens (hw.imp_right .inl) henc
  have hnot : (peerFrame peer psta f).attrib.encrypt ≠ TKIP := by
    rw [hattrib.encrypt]
    obtain hw | hw := hw <;> rw [hw] <;> decide
  refine ⟨?_, fun _ hkey => ?_, fun htkip => absurd htkip hnot⟩
  · rw [hattrib.hdrlen, hattrib.ivLen]
    exact hflen
  · have hread := readVec_congr 3 hcopied.iv h.mpdu.iv (by rw [hcopied.ivLen, hiv4]; norm_num)
    have hopen := hcopied.opened
    rw [← hread, ← hkey] at hopen
    have hsmall : a.hdrlen + a.ivLen < 2 ^ 20 := by omega
    rw [rtwWepDecrypt_st _ _ _ _ (by rw [hattrib.encrypt]; exact hw), hattrib.hdrlen, hattrib.ivLen]
    show Opened text (rc4Mem _ _ (Security.payloadLength (peerFrame peer psta f).attrib f.len) f.rxDataMem) _
    rw [hcopied.payloadLength htext hsmall hattrib]
    exact hopen

/-- **The peer undoes TKIP.** -/
theorem ReadyMpdu.unsealed_tkip (h : ReadyMpdu a d seqnum iv text x) (hshape : HdrShape a) (hmdata : a.mdata = false)
    (hprio : a.priority < 8) (hds : d.ds = 0 ∨ d.ds = 0x100 ∨ d.ds = 0x200)
    (hlens : (a.ivLen, a.icvLen) = ivIcvLen a.encrypt) (hsw : a.bswenc = true) (htkip : a.encrypt = TKIP)
    (hta : d.addr2 = a.ta) (hpn : getTkipPn iv = pn) (htext : text.length < 2 ^ 30 + 64)
    (hflen : f.len = a.hdrlen + a.ivLen + text.length + 4)
    (hcopy : ∀ k < f.len, f.rxDataMem (k : ℕ) = (xmitframeSwencrypt q x).mem (TXDESC_OFFSET + (k : ℕ)))
    (henc : (parsedFrame peer psta f).attrib.encrypt = a.encrypt) (hsome : xmitPrwskey q x.attrib ≠ none) :
    Unsealed q x peer (peerFrame peer psta f) text pn := by
  have hlen := hshape.hdrlen_cases
  have hiv8 : a.ivLen = 8 := by
    rw [htkip, Prod.mk.injEq] at hlens
    exact hlens.1
  obtain ⟨prwskey, hkey⟩ := Option.ne_none_iff_exists'.mp hsome
  obtain ⟨-, hmem⟩ := h.tkip hsw htkip prwskey hkey
  rw [hmem] at hcopy
  have hcopied := h.sealedCopy (by omega) htext _ f hflen hcopy
  have hattrib : PeerAttrib a d (peerFrame peer psta f).attrib :=
    hcopied.peerAttrib hshape hmdata hprio hds hlens (.inr (.inr htkip)) henc
  have hxa : x.attrib.hdrlen = a.hdrlen ∧ x.attrib.ta = a.ta := by
    obtain ⟨sn, v, hx⟩ := h.attrib
    rw [hx]
    exact ⟨rfl, rfl⟩
  have htkip' : (peerFrame peer psta f).attrib.encrypt = TKIP := hattrib.encrypt.trans htkip
  have hread := readVec_congr 8 hcopied.iv h.mpdu.iv (by rw [hcopied.ivLen, hiv8])
  refine ⟨?_, fun hne => absurd htkip' hne, fun _ key' hkey' hpeer => ?_⟩
  · rw [hattrib.hdrlen, hattrib.ivLen]
    exact hflen
  obtain rfl := Option.some.inj (hkey'.symm.trans hkey)
  obtain ⟨hst, hval⟩ := rtwTkipDecrypt_run peer (peerFrame peer psta f).attrib (peerFrame peer psta f).len
    (peerFrame peer psta f).rxDataMem key' htkip' hpeer
  have hopen := hcopied.opened
  have hverdict := hcopied.verdict
  rw [← hread] at hopen hverdict
  have hsmall : a.hdrlen + a.ivLen < 2 ^ 20 := by omega
  have hpay : Security.payloadLength (peerFrame peer psta f).attrib (peerFrame peer psta f).len =
      ((text.length + 4 : ℕ) : ℤ) := hcopied.payloadLength htext hsmall hattrib
  have hmemf : (peerFrame peer psta f).rxDataMem = f.rxDataMem := rfl
  rw [hattrib.hdrlen, hattrib.ivLen, hattrib.ta, hta, hpay, hmemf] at hst hval
  rw [hmemf, hst, hval, hattrib.hdrlen, hattrib.ivLen]
  refine ⟨hopen, hverdict, ?_, ?_, ?_⟩
  · have hvec : ((readVec (TXDESC_OFFSET + x.attrib.hdrlen) 8).run x.mem).val.toList = iv := by
      have hsent := h.mpdu.iv
      rw [h.mpdu.ivLen, hiv8] at hsent
      rw [readVec_val, Vector.toList_ofFn, hxa.1]
      conv_rhs => rw [← hsent]
      rw [List.ofFn_eq_map]
      rfl
    rw [tkipRc4key_pn, hvec, hpn]
  · have hback := hcopied.iv
    rw [hcopied.ivLen, hiv8] at hback
    rw [hattrib.hdrlen, hmemf, hback, hpn]
  · rw [hattrib.ta, hta, hxa.2]

end Unsealing

end Peer

/-! ## The whole way -/

section Whole
variable {padapter : RtwAdapter} {pkt : EthFrame} {pattrib a : PktAttrib} {m : Mem} {o : CoalesceOutcome}

theorem Sent.tkip_iv (ha : AttribOf padapter pkt pattrib a) {psta : StaId} {d : HdrDir} {s : Frag} {x : XmitFrame}
    (h : Sent padapter pkt a m psta d s x o) (hfit : Fits padapter.fragLen a pkt.payload.length)
    (htkip : a.encrypt = TKIP) :
    getTkipPn (s.pattrib.iv.toList.take a.ivLen) = (padapter.staInfo psta).dot11txpn.toNat % 2 ^ 48 := by
  have hlens := ha.lens
  rw [htkip, Prod.mk.injEq] at hlens
  have hiv8 : a.ivLen = 8 := hlens.1
  obtain ⟨hs, -⟩ := h.onePass_eq ha hfit
  have hiv : s.pattrib.iv = (writeIv a (padapter.staInfo psta).dot11txpn).1 := by
    rw [hs]
    exact onePass_iv (by rw [hiv8]; norm_num)
  have hpn := writeIv_pn (padapter.staInfo psta).dot11txpn (.inl htkip : Protected a.encrypt)
  rw [ivPn, if_pos htkip] at hpn
  rw [hiv, hiv8]
  exact hpn

/-- **Software decryption undoes software encryption** of a frame in one MPDU under WEP or TKIP. -/
theorem coalesce_unsealed (junk : UInt8) (ha : updateAttrib padapter junk pkt pattrib = some a)
    (hcipher : a.encrypt = WEP40 ∨ a.encrypt = WEP104 ∨ a.encrypt = TKIP) (hsw : a.bswenc = true)
    (hmode : a.encrypt = TKIP → OneMode padapter) (hfit : Fits padapter.fragLen a pkt.payload.length)
    (hrun : rtwXmitframeCoalesce padapter pkt ⟨a, m⟩ = some o) (hret : o.ret = true) :
    ∃ f x mic psta, coalesceFrame padapter pkt ⟨a, m⟩ = some (o.padapter, f, o.mpdus) ∧
      xmitframeAddmic o.padapter f = some x ∧ o.pxmitframe = xmitframeSwencrypt o.padapter x ∧
      mic.length = (if a.encrypt = TKIP then 8 else 0) ∧ xmitSta padapter a = some psta ∧
      ∀ (peer : RtwAdapter) (start : ℤ) (g : RecvFrame) (sta : StaId), Arrives o.padapter o.pxmitframe start g →
        (parsedFrame peer sta g).attrib.encrypt = a.encrypt →
        Unsealed o.padapter x peer (peerFrame peer sta g) (rtwPutSnap pkt.etherType ++ pkt.payload ++ mic)
          ((padapter.staInfo psta).dot11txpn.toNat % 2 ^ 48) := by
  have hof := updateAttrib_spec padapter junk pkt pattrib a ha
  obtain ⟨psta, d, s, x, hsent⟩ := coalesce_sent hof hrun hret
  have hpay := pkt.payload_lt
  have hds := hdrDir_ds hsent.dir
  have hlens := hof.lens
  have hicv4 : icvRoom a = 4 := by
    rw [icvRoom, if_pos hsw]
    obtain hc | hc | hc := hcipher <;> rw [hc, Prod.mk.injEq] at hlens <;> exact hlens.2
  have hsize : ∀ {seqnum : ℕ} {iv text : List UInt8} {start : ℤ} {g : RecvFrame}, ReadyMpdu a d seqnum iv text x →
      (xmitframeSwencrypt s.padapter x).attrib = x.attrib → Arrives s.padapter (xmitframeSwencrypt s.padapter x) start g →
      g.len = a.hdrlen + a.ivLen + text.length + 4 ∧
        ∀ k < g.len, g.rxDataMem (k : ℕ) = (xmitframeSwencrypt s.padapter x).mem (TXDESC_OFFSET + (k : ℕ)) := by
    intro seqnum iv text start g hready hattrib harr
    obtain ⟨sn, v, hx⟩ := hready.attrib
    have hspan := harr.span
    rw [hattrib, rtwDumpXframe_one _ _ (by rw [hx]), List.cons.injEq, Prod.mk.injEq] at hspan
    obtain ⟨⟨hstart, hlen⟩, -⟩ := hspan
    rw [hx, hicv4] at hlen
    refine ⟨by exact_mod_cast hlen.symm, ?_⟩
    rw [hstart]
    exact harr.bytes
  rw [hsent.outcome]
  by_cases htkip : a.encrypt = TKIP
  · obtain ⟨mic, hmic, hready⟩ := hsent.ready_tkip hof hfit htkip
    refine ⟨⟨s.pattrib, s.mem⟩, x, mic, psta, hsent.coalesceFrame hof, hsent.addmic, rfl, ?_, hsent.sta, ?_⟩
    · rw [if_pos htkip, hmic]
    intro peer start g sta harr henc
    have hsome : xmitPrwskey s.padapter x.attrib ≠ none := by
      have hstenc : s.pattrib.encrypt = TKIP := by
        rw [hsent.loopEnd.attrib]
        exact htkip
      obtain ⟨p, key, hsta, -, hg⟩ := xmitframeAddmic_tkip s.padapter ⟨s.pattrib, s.mem⟩ hstenc hsent.addmic
      have hsta' : xmitSta s.padapter x.attrib = some p := by
        rw [hg]
        exact hsta
      unfold xmitPrwskey
      rw [hsta', Option.bind_eq_bind, Option.bind_some]
      split <;> exact Option.some_ne_none _
    obtain ⟨prwskey, hkey⟩ := Option.ne_none_iff_exists'.mp hsome
    obtain ⟨hlen, hcopy⟩ := hsize hready (hready.tkip hsw htkip prwskey hkey).1 harr
    exact hready.unsealed_tkip hof.shape hof.flags.1 hof.priority hds hof.lens hsw htkip
      (hdrDir_ta ha (hmode htkip) hsent.dir) (hsent.tkip_iv hof hfit htkip)
      (by simp only [List.length_append, rtwPutSnap_length, hmic]; omega) hlen hcopy henc hsome
  · have hw : a.encrypt = WEP40 ∨ a.encrypt = WEP104 := by
      obtain hc | hc | hc := hcipher
      · exact .inl hc
      · exact .inr hc
      · exact absurd hc htkip
    have hready := hsent.ready hof hfit htkip
    refine ⟨⟨s.pattrib, s.mem⟩, x, [], psta, hsent.coalesceFrame hof, hsent.addmic, rfl, ?_, hsent.sta, ?_⟩
    · rw [if_neg htkip]
      rfl
    intro peer start g sta harr henc
    rw [List.append_nil]
    obtain ⟨hlen, hcopy⟩ := hsize hready (hready.wep hsw hw).1 harr
    exact hready.unsealed_wep hof.shape hof.flags.1 hof.priority hds hof.lens hsw hw
      (by simp only [List.length_append, rtwPutSnap_length]; omega) hlen hcopy henc

end Whole

theorem coalesce_unsealed_station : ∃ (a : PktAttrib) (o : CoalesceOutcome) (x : XmitFrame) (mic : List UInt8),
    updateAttrib (tkipStation 2346) 0 (zeroEth 10 (by decide)) {} = some a ∧
    rtwXmitframeCoalesce (tkipStation 2346) (zeroEth 10 (by decide)) ⟨a, fun _ => 0⟩ = some o ∧
    o.pxmitframe = xmitframeSwencrypt o.padapter x ∧ mic.length = 8 ∧
    ∀ (peer : RtwAdapter) (start : ℤ) (g : RecvFrame) (sta : StaId), Arrives o.padapter o.pxmitframe start g →
      (parsedFrame peer sta g).attrib.encrypt = TKIP → Unsealed o.padapter x peer (peerFrame peer sta g)
        (rtwPutSnap (zeroEth 10 (by decide)).etherType ++ (zeroEth 10 (by decide)).payload ++ mic) 0 := by
  obtain ⟨a, ha, hattrib, hsw⟩ : ∃ a, updateAttrib (tkipStation 2346) 0 (zeroEth 10 (by decide)) {} = some a ∧
      TkipAttrib a ∧ a.bswenc = true := ⟨_, rfl, ⟨rfl, rfl, ⟨rfl, rfl, rfl⟩, rfl⟩, rfl⟩
  obtain ⟨o, hrun, hret⟩ := tkipStation_sends 2346 ha hattrib
  obtain ⟨hhdr, hiv, hicv⟩ := hattrib.sizes
  have hlen : (zeroEth 10 (by decide)).payload.length = 10 := List.length_replicate
  have hfit : Fits (tkipStation 2346).fragLen a (zeroEth 10 (by decide)).payload.length := by
    refine .inr (.inr ?_)
    rw [hlen, fragRoom, hhdr, hiv, hicv]
    norm_num [tkipStation, stationAdapter]
  have hmode : OneMode (tkipStation 2346) := fun hap => absurd hap (by decide)
  obtain ⟨f, x, mic, psta, -, -, hx, hmic, hsta, hall⟩ :=
    coalesce_unsealed 0 ha (.inr (.inr hattrib.encrypt)) hsw (fun _ => hmode) hfit hrun hret
  rw [if_pos hattrib.encrypt] at hmic
  refine ⟨a, o, x, mic, ha, hrun, hx, hmic, fun peer start g sta harr henc => ?_⟩
  exact hall peer start g sta harr (henc.trans hattrib.encrypt.symm)

end Rtl8723au
