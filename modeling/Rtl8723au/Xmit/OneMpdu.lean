import Rtl8723au.Xmit.CoalesceLoop

/-! A packet that goes out as one MPDU: what its bytes are when `rtw_xmitframe_coalesce` is done with them,
before the Michael code and the encryption. -/
namespace Rtl8723au
open Mem Wifi Security
set_option autoImplicit false

/-! ## The header -/

/-- The bytes from `hdr` on are the header of a frame. -/
structure HdrOf (a : PktAttrib) (d : HdrDir) (seqnum : ℕ) (m : Mem) (hdr : ℤ) : Prop where
  fc : le16 m hdr = hdrFc a d
  seq : le16 m (hdr + 22) = 0xfff0 &&& (seqnum <<< 4)
  qos : a.hdrlen = 26 → le16 m (hdr + 24) = if d.qosOption then a.priority &&& 0xf else 0
  addr1 : ∀ k < 6, m (hdr + 4 + (k : ℕ)) = d.addr1.toList.getD k 0
  addr2 : ∀ k < 6, m (hdr + 10 + (k : ℕ)) = d.addr2.toList.getD k 0
  addr3 : ∀ k < 6, m (hdr + 16 + (k : ℕ)) = d.addr3.toList.getD k 0

section Header
variable {a : PktAttrib} {d : HdrDir} {seqnum : ℕ} {m m' : Mem} {p p' : ℤ}

theorem le16_copy (h0 : m' p' = m p) (h1 : m' (p' + 1) = m (p + 1)) : le16 m' p' = le16 m p := by
  rw [le16, le16, h0, h1]

theorem HdrShape.hdrlen_cases (h : HdrShape a) : a.hdrlen = 24 ∨ a.hdrlen = 26 := by
  cases h with
  | plain hlen hsub hprio => exact .inl hlen
  | qos hlen hsub => exact .inr hlen

theorem HdrOf.copy (h : HdrOf a d seqnum m p) (hlen : 24 ≤ a.hdrlen)
    (heq : ∀ k < a.hdrlen, m' (p' + (k : ℕ)) = m (p + (k : ℕ))) : HdrOf a d seqnum m' p' := by
  have hbyte : ∀ i : ℕ, i < a.hdrlen → ∀ x x' : ℤ, x = p + i → x' = p' + i → m' x' = m x := by
    rintro i hi x x' rfl rfl
    exact heq i hi
  constructor
  · rw [← h.fc]
    exact le16_copy (hbyte 0 (by omega) _ _ (by omega) (by omega)) (hbyte 1 (by omega) _ _ (by omega) (by omega))
  · rw [← h.seq]
    exact le16_copy (hbyte 22 (by omega) _ _ (by omega) (by omega)) (hbyte 23 (by omega) _ _ (by omega) (by omega))
  · intro h26
    rw [← h.qos h26]
    exact le16_copy (hbyte 24 (by omega) _ _ (by omega) (by omega)) (hbyte 25 (by omega) _ _ (by omega) (by omega))
  · intro k hk
    rw [← h.addr1 k hk]
    exact hbyte (4 + k) (by omega) _ _ (by omega) (by omega)
  · intro k hk
    rw [← h.addr2 k hk]
    exact hbyte (10 + k) (by omega) _ _ (by omega) (by omega)
  · intro k hk
    rw [← h.addr3 k hk]
    exact hbyte (16 + k) (by omega) _ _ (by omega) (by omega)

theorem hdrDir_ds {padapter : RtwAdapter} {info : StaInfo} (h : hdrDir padapter a info = some d) :
    d.ds = 0 ∨ d.ds = 0x100 ∨ d.ds = 0x200 := by
  unfold hdrDir at h
  split at h
  · cases h
    exact .inr (.inl rfl)
  · split at h
    · cases h
      exact .inr (.inr rfl)
    · split at h
      · cases h
        exact .inl rfl
      · cases h

/-- `rtw_make_wlanhdr` makes one. -/
theorem putWlanhdr_hdrOf (m : Mem) (p : ℤ) (seqnum : ℕ) (hshape : HdrShape a) (hflags : a.mdata = false ∧ a.eosp = 0 ∧ a.ackPolicy = 0)
    (hds : d.ds = 0 ∨ d.ds = 0x100 ∨ d.ds = 0x200) : HdrOf a d seqnum (putWlanhdr m p a d seqnum) p := by
  have hlen : 24 ≤ a.hdrlen := by
    obtain h | h := hshape.hdrlen_cases <;> omega
  have hsub : a.subtype < 2 ^ 16 := by
    cases hshape with
    | plain hl hs hp =>
      rw [hs]
      norm_num
    | qos hl hs =>
      rw [hs]
      norm_num
  exact ⟨le16_putWlanhdr_fc m p a d seqnum hlen hsub hds, le16_putWlanhdr_seq m p a d seqnum hshape hflags.2,
    fun h26 => le16_putWlanhdr_qos m p a d seqnum h26 hflags.2,
    fun k hk => (putWlanhdr_addr m p a d seqnum hlen k hk).1,
    fun k hk => (putWlanhdr_addr m p a d seqnum hlen k hk).2.1,
    fun k hk => (putWlanhdr_addr m p a d seqnum hlen k hk).2.2⟩

theorem hdrFc_cases (hshape : HdrShape a) (hmdata : a.mdata = false) : ∃ sub e,
    hdrFc a d = (sub ||| d.ds ||| 0 ||| e) ∧ (sub = 0x08 ∧ a.hdrlen = 24 ∨ sub = 0x88 ∧ a.hdrlen = 26) ∧
      (e = 0x4000 ∧ (a.encrypt != 0) = true ∨ e = 0 ∧ (a.encrypt != 0) = false) := by
  refine ⟨a.subtype, if a.encrypt ≠ 0 then 0x4000 else 0, ?_, ?_, ?_⟩
  · rw [hdrFc, hmdata, if_neg Bool.false_ne_true]
  · cases hshape with
    | plain hlen hsub hprio => exact .inl ⟨hsub, hlen⟩
    | qos hlen hsub => exact .inr ⟨hsub, hlen⟩
  · split
    · rename_i h
      exact .inl ⟨rfl, bne_iff_ne.mpr h⟩
    · rename_i h
      refine .inr ⟨rfl, ?_⟩
      rw [not_not.mp h]
      rfl

theorem hdrFc_clear (hshape : HdrShape a) (hmdata : a.mdata = false)
    (hds : d.ds = 0 ∨ d.ds = 0x100 ∨ d.ds = 0x200) : (hdrFc a d ||| 0x400) &&& 0xfbff = hdrFc a d := by
  obtain ⟨sub, e, hfc, hsub, he⟩ := hdrFc_cases (d := d) hshape hmdata
  rw [hfc]
  obtain ⟨rfl, -⟩ | ⟨rfl, -⟩ := hsub <;> obtain hd | hd | hd := hds <;> obtain ⟨rfl, -⟩ | ⟨rfl, -⟩ := he <;>
    rw [hd] <;> decide

end Header

/-! ## The whole frame -/

/-- The buffer holds one MPDU: its header, the IV and the text. -/
structure OneMpdu (a : PktAttrib) (d : HdrDir) (seqnum : ℕ) (iv text : List UInt8) (m : Mem) : Prop where
  header : HdrOf a d seqnum m TXDESC_OFFSET
  ivLen : iv.length = a.ivLen
  iv : bytesAt m (TXDESC_OFFSET + a.hdrlen) iv.length = iv
  text : bytesAt m (TXDESC_OFFSET + a.hdrlen + a.ivLen) text.length = text

section Sent
variable {padapter : RtwAdapter} {pkt : EthFrame} {pattrib a : PktAttrib} {m : Mem} {o : CoalesceOutcome}
  {psta : StaId} {d : HdrDir} {s : Frag} {f : XmitFrame}

def onePass (padapter : RtwAdapter) (pkt : EthFrame) (a : PktAttrib) (m : Mem) (psta : StaId) (d : HdrDir) : Frag :=
  fragLast (fragPass psta (sentStart padapter pkt a m psta d)) (fragMpdu (fragIv psta (sentStart padapter pkt a m psta d)))

theorem onePass_iv (h : a.ivLen ≠ 0) :
    (onePass padapter pkt a m psta d).pattrib.iv = (writeIv a (padapter.staInfo psta).dot11txpn).1 := by
  have hiv : (sentStart padapter pkt a m psta d).pattrib.ivLen ≠ 0 := h
  have hpn : ((sentStart padapter pkt a m psta d).padapter.staInfo psta).dot11txpn
      = (padapter.staInfo psta).dot11txpn := by
    show ((sentAdapter padapter a psta).staInfo psta).dot11txpn = _
    unfold sentAdapter RtwAdapter.setInfo StaPriv.setInfo RtwAdapter.staInfo
    simp [countSeqnum]
  show (fragIv psta (sentStart padapter pkt a m psta d)).pattrib.iv = _
  unfold fragIv
  rw [if_pos hiv]
  dsimp only
  rw [hpn]
  rfl

theorem Sent.onePass_eq (ha : AttribOf padapter pkt pattrib a) (h : Sent padapter pkt a m psta d s f o)
    (hfit : Fits padapter.fragLen a pkt.payload.length) : s = onePass padapter pkt a m psta d ∧
      fragRead (fragIv psta (sentStart padapter pkt a m psta d)) = (pkt.payload, []) := by
  have harr : InArrays (sentAttrib padapter a psta) := ⟨ha.inArrays.iv, ha.inArrays.icv⟩
  obtain ⟨hread, hloop⟩ := coalesceLoop_one psta (sentAdapter padapter a psta) pkt (sentAttrib padapter a psta)
    (putWlanhdr m TXDESC_OFFSET a d (nextSeqnum (padapter.staInfo psta) a.priority)) harr ha.pktHdrlen ha.pktlen
    hfit (pkt.data.length + 1)
  have hs := h.loop
  change coalesceLoop psta (pkt.data.length + 1 + 1) (sentStart padapter pkt a m psta d) = some s at hs
  exact ⟨Option.some.inj (hs.symm.trans hloop), hread⟩

theorem Sent.one_mem (ha : AttribOf padapter pkt pattrib a) (h : Sent padapter pkt a m psta d s f o)
    (hfit : Fits padapter.fragLen a pkt.payload.length) : ∃ icv, s.mem = clearMFrag (putBytes
      (setMFrag (putWlanhdr m TXDESC_OFFSET a d (nextSeqnum (padapter.staInfo psta) a.priority)) TXDESC_OFFSET)
      (TXDESC_OFFSET + a.hdrlen)
      (s.pattrib.iv.toList.take a.ivLen ++ (rtwPutSnap pkt.etherType ++ pkt.payload) ++ icv)) TXDESC_OFFSET := by
  obtain ⟨hs, hread⟩ := h.onePass_eq ha hfit
  have hof := fragIv_of psta (fragStart_of (sentAdapter padapter a psta) pkt (sentAttrib padapter a psta)
    (putWlanhdr m TXDESC_OFFSET a d (nextSeqnum (padapter.staInfo psta) a.priority)))
  change FragOf _ _ (fragIv psta (sentStart padapter pkt a m psta d)) at hof
  have hmem : s.mem = clearMFrag (fragCursor (fragIv psta (sentStart padapter pkt a m psta d))).mem
      (fragIv psta (sentStart padapter pkt a m psta d)).memStart := by
    rw [hs]
    rfl
  have hiv : s.pattrib.iv = (fragIv psta (sentStart padapter pkt a m psta d)).pattrib.iv := by
    rw [hs]
    rfl
  have hllc : fragLlc (fragIv psta (sentStart padapter pkt a m psta d)) = rtwPutSnap pkt.etherType := by
    rw [fragIv_llc, ← ha.etherType]
    rfl
  have hlens : (fragIv psta (sentStart padapter pkt a m psta d)).pattrib.hdrlen = a.hdrlen ∧
      (fragIv psta (sentStart padapter pkt a m psta d)).pattrib.ivLen = a.ivLen := by
    rw [hof.attrib]
    exact ⟨rfl, rfl⟩
  refine ⟨fragIcv (fragIv psta (sentStart padapter pkt a m psta d)), ?_⟩
  have hbody : (fragMpdu (fragIv psta (sentStart padapter pkt a m psta d))).body =
      s.pattrib.iv.toList.take a.ivLen ++ (rtwPutSnap pkt.etherType ++ pkt.payload) ++
        fragIcv (fragIv psta (sentStart padapter pkt a m psta d)) := by
    unfold Mpdu.body fragMpdu
    dsimp only
    rw [hread, hllc, hlens.2, hiv, List.append_assoc (List.take _ _)]
  rw [hmem, fragCursor_eq]
  dsimp only
  rw [hbody, hlens.1, fragIv_mem, fragIv_memStart]
  rfl

/-- **One MPDU**, before the Michael code and the encryption. -/
theorem Sent.oneMpdu (ha : AttribOf padapter pkt pattrib a) (h : Sent padapter pkt a m psta d s f o)
    (hfit : Fits padapter.fragLen a pkt.payload.length) :
    OneMpdu a d (nextSeqnum (padapter.staInfo psta) a.priority) (s.pattrib.iv.toList.take a.ivLen)
      (rtwPutSnap pkt.etherType ++ pkt.payload) s.mem := by
  have hshape := ha.shape
  have hds := hdrDir_ds h.dir
  have hhdr := putWlanhdr_hdrOf m TXDESC_OFFSET (nextSeqnum (padapter.staInfo psta) a.priority) hshape ha.flags hds
  have hlen : 24 ≤ a.hdrlen := by
    obtain h | h := hshape.hdrlen_cases <;> omega
  have hivLen : (s.pattrib.iv.toList.take a.ivLen).length = a.ivLen := by
    have := ha.inArrays.iv
    rw [List.length_take, Vector.length_toList]
    omega
  obtain ⟨icv, hmem⟩ := h.one_mem ha hfit
  generalize putWlanhdr m TXDESC_OFFSET a d (nextSeqnum (padapter.staInfo psta) a.priority) = m0 at hmem hhdr
  generalize s.pattrib.iv.toList.take a.ivLen = iv at hmem hivLen ⊢
  generalize rtwPutSnap pkt.etherType ++ pkt.payload = text at hmem ⊢
  have hbehind : ∀ x, (TXDESC_OFFSET : ℤ) + 2 ≤ x → s.mem x =
      putBytes (setMFrag m0 TXDESC_OFFSET) (TXDESC_OFFSET + a.hdrlen) (iv ++ text ++ icv) x := by
    intro x hx
    rw [hmem, clearMFrag, onLe16_outside _ _ _ _ (by omega)]
  have hfront : ∀ x, (TXDESC_OFFSET : ℤ) + 2 ≤ x → x < TXDESC_OFFSET + a.hdrlen → s.mem x = m0 x := by
    intro x hx hx'
    rw [hbehind x hx, putBytes_outside _ _ _ _ (by omega), setMFrag, onLe16_outside _ _ _ _ (by omega)]
  have hfc : le16 s.mem TXDESC_OFFSET = hdrFc a d := by
    have hbody : le16 (putBytes (setMFrag m0 TXDESC_OFFSET) (TXDESC_OFFSET + a.hdrlen) (iv ++ text ++ icv))
        TXDESC_OFFSET = hdrFc a d ||| 0x400 := by
      rw [le16_putBytes_of_ne _ _ _ _ (by omega), setMFrag, le16_onLe16_or _ _ _ (by norm_num), hhdr.fc]
    rw [hmem, clearMFrag, le16_onLe16 _ _ _ (by rw [hbody]; exact Nat.and_lt_two_pow _ (by norm_num)), hbody]
    exact hdrFc_clear hshape ha.flags.1 hds
  have hstretch : ∀ (x : ℤ) (n : ℕ), (TXDESC_OFFSET : ℤ) + 2 ≤ x → bytesAt s.mem x n =
      bytesAt (putBytes (setMFrag m0 TXDESC_OFFSET) (TXDESC_OFFSET + a.hdrlen) (iv ++ text ++ icv)) x n := by
    intro x n hx
    apply bytesAt_congr
    intro k hk
    exact hbehind _ (by omega)
  constructor
  · constructor
    · exact hfc
    · rw [← hhdr.seq]
      exact le16_copy (hfront _ (by omega) (by omega)) (hfront _ (by omega) (by omega))
    · intro h26
      rw [← hhdr.qos h26]
      exact le16_copy (hfront _ (by omega) (by omega)) (hfront _ (by omega) (by omega))
    · intro k hk
      rw [← hhdr.addr1 k hk]
      exact hfront _ (by omega) (by omega)
    · intro k hk
      rw [← hhdr.addr2 k hk]
      exact hfront _ (by omega) (by omega)
    · intro k hk
      rw [← hhdr.addr3 k hk]
      exact hfront _ (by omega) (by omega)
  · exact hivLen
  · rw [hstretch _ _ (by omega)]
    have hput := bytesAt_putBytes (m := setMFrag m0 TXDESC_OFFSET) (p := TXDESC_OFFSET + a.hdrlen) [] iv
      (text ++ icv)
    rw [List.nil_append, List.length_nil, Nat.cast_zero, add_zero, ← List.append_assoc] at hput
    exact hput
  · rw [hstretch _ _ (by omega), ← hivLen]
    exact bytesAt_putBytes iv text icv

theorem LoopEnd.one {fragLen : ℕ} {payload : List UInt8} (h : LoopEnd a fragLen payload s)
    (hfit : Fits fragLen a payload.length) : ∃ u, s.mpdus = [u] ∧ s.pattrib.nrFrags = 1 ∧
      s.pattrib.lastTxcmdsz = a.hdrlen + a.ivLen + (payload.length + 8) + icvRoom a := by
  obtain ⟨u, hu⟩ := List.length_eq_one_iff.mp (h.cut.one.mpr hfit)
  have htext := h.cut.text
  rw [hu, List.flatMap_singleton] at htext
  have hlast := h.lastTxcmdsz u (by rw [hu]; rfl)
  have hnr := h.nrFrags
  refine ⟨u, hu, ?_, ?_⟩
  · rw [hnr, hu]
    rfl
  · rw [hlast, htext, List.length_append, rtwPutSnap_length, Nat.add_comm 8]

end Sent

end Rtl8723au
