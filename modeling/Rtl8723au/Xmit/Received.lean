import Rtl8723au.Recv.DataAttrib
import Rtl8723au.Xmit.OneMpdu

/-! The header of a transmitted data frame as the receive path reads it. -/
namespace Rtl8723au
open Mem Wifi Security
set_option autoImplicit false

/-- The attributes the receive path derives from the header `rtw_make_wlanhdr` made. -/
structure HdrAttrib (a : PktAttrib) (d : HdrDir) (b : RxPktAttrib) : Prop where
  hdrlen : b.hdrlen = a.hdrlen
  privacy : b.privacy = (a.encrypt != 0)
  mfrag : b.mfrag = false
  fragNum : b.fragNum = 0
  amsdu : b.amsdu = false
  priority : b.priority = if a.hdrlen = 26 ∧ d.qosOption = true then a.priority else 0
  dst : b.dst = if d.ds = 0x100 then d.addr3 else d.addr1
  src : b.src = if d.ds = 0x200 then d.addr3 else d.addr2
  ra : b.ra = d.addr1
  ta : b.ta = d.addr2

section Fields
variable {a : PktAttrib} {d : HdrDir} {seqnum : ℕ} {m : Mem}

/-- The frame control field, taken apart. -/
structure FcFields (a : PktAttrib) (d : HdrDir) (fc : ℕ) : Prop where
  type : getFrameType fc = WIFI_DATA_TYPE
  qos : (getFrameSubType fc &&& 0x80 != 0) = (a.hdrlen == 26)
  toFrDs : getTofrDs fc = if d.ds = 0x100 then 2 else if d.ds = 0x200 then 1 else 0
  mfrag : getMFrag fc = false
  privacy : getPrivacy fc = (a.encrypt != 0)
  order : getOrder fc = false

theorem hdrFc_fields (hshape : HdrShape a) (hmdata : a.mdata = false)
    (hds : d.ds = 0 ∨ d.ds = 0x100 ∨ d.ds = 0x200) : FcFields a d (hdrFc a d) := by
  obtain ⟨sub, e, hfc, hsub, he⟩ := hdrFc_cases (d := d) hshape hmdata
  rw [hfc]
  obtain ⟨rfl, hlen⟩ | ⟨rfl, hlen⟩ := hsub <;> obtain hd | hd | hd := hds <;>
    obtain ⟨rfl, henc⟩ | ⟨rfl, henc⟩ := he <;> rw [hd] <;>
    exact ⟨by decide, by rw [hlen]; decide, by rw [hd]; decide, by decide, by rw [henc]; decide, by decide⟩

theorem readVec_addr (p : ℤ) (v : MacAddr) (h : ∀ k < 6, m (p + (k : ℕ)) = v.toList.getD k 0) :
    ((readVec p 6).run m).val = v := by
  rw [readVec_val]
  ext i hi
  rw [Vector.getElem_ofFn, h i hi, List.getD_eq_getElem _ _ (by rw [Vector.length_toList]; exact hi),
    Vector.getElem_toList]

theorem HdrOf.addrs (h : HdrOf a d seqnum m 0) (hds : d.ds = 0 ∨ d.ds = 0x100 ∨ d.ds = 0x200)
    (b : RxPktAttrib) (hb : b.toFrDs = if d.ds = 0x100 then 2 else if d.ds = 0x200 then 1 else 0) :
    ∃ bssid, dataAddrs m b = { b with
      dst := if d.ds = 0x100 then d.addr3 else d.addr1
      src := if d.ds = 0x200 then d.addr3 else d.addr2
      bssid := bssid
      ra := d.addr1
      ta := d.addr2 } := by
  have h1 : ((readVec (getAddr1Ptr 0) 6).run m).val = d.addr1 := readVec_addr _ _ h.addr1
  have h2 : ((readVec (getAddr2Ptr 0) 6).run m).val = d.addr2 := readVec_addr _ _ h.addr2
  have h3 : ((readVec (getAddr3Ptr 0) 6).run m).val = d.addr3 := readVec_addr _ _ h.addr3
  unfold dataAddrs
  obtain hd | hd | hd := hds
  · have hb0 : b.toFrDs = 0 := by rw [hb, hd, if_neg (by norm_num), if_neg (by norm_num)]
    simp only [hb0, getDa, getSa, getHdrBssid, h1, h2, h3]
    rw [hd, if_neg (by norm_num), if_neg (by norm_num)]
    exact ⟨_, rfl⟩
  · have hb2 : b.toFrDs = 2 := by rw [hb, hd, if_pos rfl]
    simp only [hb2, getDa, getSa, getHdrBssid, h1, h2, h3]
    rw [hd, if_pos rfl, if_neg (by norm_num)]
    exact ⟨_, rfl⟩
  · have hb1 : b.toFrDs = 1 := by rw [hb, hd, if_neg (by norm_num), if_pos rfl]
    simp only [hb1, getDa, getSa, getHdrBssid, h1, h2, h3]
    rw [hd, if_neg (by norm_num), if_pos rfl]
    exact ⟨_, rfl⟩

theorem parseQc_three (b : RxPktAttrib) (h3 : b.toFrDs ≠ 3) (hord : b.order = false) : ∃ ackPolicy,
    ((parseQc b).run m).val = { b with
      amsdu := b.qos && getAMsdu (le16 m 24) != 0
      ackPolicy := ackPolicy
      priority := if b.qos then getPriority (le16 m 24) else 0
      hdrlen := if b.qos then 26 else 24 } := by
  unfold parseQc
  cases hq : b.qos with
  | true =>
    refine ⟨getAckpolicy (le16 m 24), ?_⟩
    simp [h3, hord]
  | false =>
    refine ⟨0, ?_⟩
    simp [h3, hord]

theorem getFragNum_setSeqNum (seqnum : ℕ) : getFragNum (0xfff0 &&& (seqnum <<< 4)) = 0 := by
  unfold getFragNum
  rw [Nat.and_comm 0xfff0, Nat.and_assoc]
  exact Nat.and_zero _

theorem hdrAttrib_parseQc (b : RxPktAttrib) (hshape : HdrShape a) (hprio : a.priority < 8)
    (hqc : a.hdrlen = 26 → le16 m 24 = if d.qosOption then a.priority &&& 0xf else 0)
    (hqos : b.qos = (a.hdrlen == 26)) (h3 : b.toFrDs ≠ 3) (hord : b.order = false)
    (hprivacy : b.privacy = (a.encrypt != 0)) (hmfrag : b.mfrag = false) (hfrag : b.fragNum = 0)
    (hdst : b.dst = if d.ds = 0x100 then d.addr3 else d.addr1)
    (hsrc : b.src = if d.ds = 0x200 then d.addr3 else d.addr2) (hra : b.ra = d.addr1) (hta : b.ta = d.addr2) :
    HdrAttrib a d ((parseQc b).run m).val := by
  have hbits : ∀ n < 8, getAMsdu (n &&& 0xf) = 0 ∧ getPriority (n &&& 0xf) = n := by decide
  obtain ⟨ackPolicy, heq⟩ := parseQc_three (m := m) b h3 hord
  rw [heq]
  obtain hlen | hlen := hshape.hdrlen_cases
  · have hq : b.qos = false := by rw [hqos, hlen]; rfl
    refine ⟨?_, hprivacy, hmfrag, hfrag, ?_, ?_, hdst, hsrc, hra, hta⟩
    · rw [hq, hlen]
      rfl
    · rw [hq]
      rfl
    · rw [hq, hlen]
      rfl
  · have hq : b.qos = true := by rw [hqos, hlen]; rfl
    have hfield := hqc hlen
    refine ⟨?_, hprivacy, hmfrag, hfrag, ?_, ?_, hdst, hsrc, hra, hta⟩
    · rw [hq, hlen]
      rfl
    · have hzero : getAMsdu (if d.qosOption = true then a.priority &&& 0xf else 0) = 0 := by
        split
        · exact (hbits _ hprio).1
        · rfl
      show (b.qos && getAMsdu (le16 m 24) != 0) = false
      rw [hq, hfield, hzero]
      rfl
    · show (if b.qos = true then getPriority (le16 m 24) else 0) = _
      rw [if_pos hq, hfield]
      cases hd : d.qosOption with
      | true =>
        rw [if_pos rfl, if_pos ⟨hlen, rfl⟩]
        exact (hbits _ hprio).2
      | false =>
        rw [if_neg Bool.false_ne_true, if_neg fun h => Bool.false_ne_true h.2]
        rfl

/-- **The header is read as it was made.** -/
theorem HdrOf.dataAttrib (h : HdrOf a d seqnum m 0) (hshape : HdrShape a) (hmdata : a.mdata = false)
    (hprio : a.priority < 8) (hds : d.ds = 0 ∨ d.ds = 0x100 ∨ d.ds = 0x200) (b : RxPktAttrib) :
    HdrAttrib a d (dataAttrib m { headerAttrib b (le16 m 0) (le16 m 22) with
      qos := getFrameSubType (le16 m 0) &&& 0x80 != 0 }) := by
  have hfc := hdrFc_fields (d := d) hshape hmdata hds
  have hle := h.fc
  have hseq := h.seq
  rw [zero_add] at hseq
  rw [hle, hseq]
  have htofr : (headerAttrib b (hdrFc a d) (0xfff0 &&& (seqnum <<< 4))).toFrDs
      = if d.ds = 0x100 then 2 else if d.ds = 0x200 then 1 else 0 := hfc.toFrDs
  obtain ⟨bssid, haddrs⟩ := h.addrs hds { headerAttrib b (hdrFc a d) (0xfff0 &&& (seqnum <<< 4)) with
      qos := getFrameSubType (hdrFc a d) &&& 0x80 != 0 } htofr
  unfold Rtl8723au.dataAttrib
  rw [haddrs]
  have hqc := h.qos
  rw [zero_add] at hqc
  refine hdrAttrib_parseQc _ hshape hprio hqc hfc.qos ?_ hfc.order hfc.privacy hfc.mfrag
    (getFragNum_setSeqNum seqnum) rfl rfl rfl rfl
  show (headerAttrib b (hdrFc a d) (0xfff0 &&& (seqnum <<< 4))).toFrDs ≠ 3
  rw [htofr]
  split
  · norm_num
  · split <;> norm_num

end Fields

end Rtl8723au
