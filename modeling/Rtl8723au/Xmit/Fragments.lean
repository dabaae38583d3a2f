import Rtl8723au.Recv.Defrag
import Rtl8723au.Xmit.RoundTrip

/-! A packet cut into several MPDUs, at the transmitter and at `recvframe_chk_defrag`. Nothing in
`rtw_xmitframe_coalesce` numbers the fragments. -/
namespace Rtl8723au
open Mem Wifi Security
set_option autoImplicit false

/-! ## The property -/

/-- `recvframe_chk_defrag` on one frame after the other: what it returned for each. -/
def chkDefragRun : RtwAdapter → RecvPool → List FrameId → List (Option FrameId) × RecvPool
  | _, s, [] => ([], s)
  | adapter, s, f :: fs =>
    let r := s.recvframeChkDefrag adapter f
    let t := chkDefragRun r.2.2 r.2.1 fs
    (r.1 :: t.1, t.2)

/-- The frame holds the bytes of an MPDU, and its attributes are those parsed from them. -/
def HoldsMpdu (peer : RtwAdapter) (psta : StaId) (x : XmitFrame) (u : Mpdu) (f : RecvFrame) : Prop :=
  ∃ g : RecvFrame, f = parsedFrame peer psta g ∧ g.len = x.attrib.hdrlen + u.body.length ∧
    g.rxTail = g.rxData + g.len ∧ ∀ k < g.len, g.rxDataMem (k : ℕ) = x.mem (u.start + (k : ℕ))

/-- Frames of the pool that hold the MPDUs of a packet for a station whose defragmentation queue is empty;
the buffer of the first has room for the whole. -/
structure HoldsMpdus (peer : RtwAdapter) (psta : StaId) (x : XmitFrame) (mpdus : List Mpdu) (s : RecvPool)
    (fs : List FrameId) : Prop where
  nodup : fs.Nodup
  length : fs.length = mpdus.length
  fresh : ∀ f ∈ fs, ∀ q, f ∉ s.queue q
  queue : s.queue (.defragQ psta) = []
  frames : ∀ (i : ℕ) (f : FrameId) (u : Mpdu), fs[i]? = some f → mpdus[i]? = some u →
    HoldsMpdu peer psta x u (s.frames f)
  sta : ∀ f ∈ fs, rtwGetStainfo peer.stapriv (some (s.frames f).attrib.ta) = some psta
  room : ∀ f, fs[0]? = some f →
    (s.frames f).rxTail + (mpdus.flatMap Mpdu.body).length ≤ (s.frames f).rxEnd

/-- What fragmentation is for: the fragments are numbered, the receiver makes `text` of them. -/
structure FragmentRoundTrip (peer : RtwAdapter) (x : XmitFrame) (mpdus : List Mpdu) (text : List UInt8) : Prop where
  seq : ∀ (i : ℕ) (u : Mpdu), mpdus[i]? = some u →
    getSequence (le16 x.mem (u.start + 22)) = getSequence (le16 x.mem (TXDESC_OFFSET + 22))
  fragNum : ∀ (i : ℕ) (u : Mpdu), mpdus[i]? = some u → getFragNum (le16 x.mem (u.start + 22)) = i
  mfrag : ∀ (i : ℕ) (u : Mpdu), mpdus[i]? = some u → getMFrag (le16 x.mem u.start) = decide (i + 1 < mpdus.length)
  bodies : mpdus.flatMap (fun u => bytesAt x.mem (u.start + x.attrib.hdrlen) u.body.length) = text
  defrag : ∀ (psta : StaId) (s : RecvPool) (fs : List FrameId), HoldsMpdus peer psta x mpdus s fs →
    ∃ f t, chkDefragRun peer s fs = (List.replicate (mpdus.length - 1) none ++ [some f], t) ∧
      bytesAt (t.frames f).rxDataMem x.attrib.hdrlen ((t.frames f).len - x.attrib.hdrlen) = text

/-! ## The sequence control field -/

section Sequence
variable {psta : StaId} {a : PktAttrib} {payload : List UInt8} {fragLen c : ℕ}

/-- The MPDUs begun so far have the same sequence control field. -/
def SameSeq (fragLen c : ℕ) (s : Frag) : Prop :=
  ∀ j ≤ s.frgInx, le16 s.mem (layoutStart fragLen j + 22) = c

theorem fragPass_le16 (s : Frag) (x : ℤ) (hx : x + 1 < s.memStart ∨ s.memStart + 1 < x ∧
    x + 1 < s.memStart + (fragIv psta s).pattrib.hdrlen) : le16 (fragPass psta s).mem x = le16 s.mem x := by
  show le16 (fragCursor (fragIv psta s)).mem x = _
  rw [fragCursor_eq]
  dsimp only
  rw [fragIv_memStart, fragIv_mem, le16_putBytes_of_ne _ _ _ _ (by omega), setMFrag,
    le16_onLe16_of_ne _ _ _ _ (by omega)]

theorem putBytes_bytesAt (m n : Mem) (p q : ℤ) (len k : ℕ) (hk : k < len) :
    putBytes m p (bytesAt n q len) (p + k) = n (q + k) := by
  have hlen : k < (bytesAt n q len).length := by rw [bytesAt_length]; exact hk
  rw [putBytes_inside _ _ _ _ hlen, List.getD_eq_getElem _ _ hlen]
  simp only [bytesAt, List.getElem_map, List.getElem_range]

variable {s : Frag}

theorem sameSeq_pass (psta : StaId) (h24 : 24 ≤ a.hdrlen) (hfrag : (28 : ℤ) ≤ fragLen) (hof : FragOf a fragLen s)
    (hstart : s.memStart = layoutStart fragLen s.frgInx) (h : SameSeq fragLen c s) (j : ℕ) (hj : j ≤ s.frgInx) :
    le16 (fragPass psta s).mem (layoutStart fragLen j + 22) = c := by
  have hhdr : (fragIv psta s).pattrib.hdrlen = a.hdrlen := by rw [(fragIv_of psta hof).attrib]
  have hplace : layoutStart fragLen j = s.memStart ∨ layoutStart fragLen j + (fragLen - 4) ≤ s.memStart := by
    rw [hstart]
    obtain rfl | hlt := Nat.eq_or_lt_of_le hj
    · exact .inl rfl
    · exact .inr (layoutStart_apart fragLen j _ (by omega) hlt)
  rw [fragPass_le16 s _ (by rw [hhdr]; omega)]
  exact h j hj

theorem sameSeq_step (ha : InArrays a) (h24 : 24 ≤ a.hdrlen) (hlaid : Laid a fragLen payload s)
    (h : SameSeq fragLen c s) (hnot : ¬ fragDone (fragPass psta s)) :
    SameSeq fragLen c (fragNext (fragPass psta s)) := by
  obtain ⟨-, n, hroom, -, -⟩ := not_fragDone hlaid.of ha hnot
  unfold fragRoom at hroom
  have hfrag : (28 : ℤ) ≤ fragLen := by omega
  have hpass := sameSeq_pass psta h24 hfrag hlaid.of hlaid.start h
  have hnext := (laid_step ha hlaid hnot).start
  have hinx : (fragNext (fragPass psta s)).frgInx = s.frgInx + 1 := fragNext_frgInx
  have hmem : (fragNext (fragPass psta s)).mem = putBytes (fragPass psta s).mem
      (fragNext (fragPass psta s)).memStart (bytesAt (fragPass psta s).mem TXDESC_OFFSET a.hdrlen) := by
    have hhdr : (fragPass psta s).pattrib.hdrlen = a.hdrlen := by
      show (fragIv psta s).pattrib.hdrlen = _
      rw [(fragIv_of psta hlaid.of).attrib]
    show putBytes _ _ (bytesAt _ _ (fragPass psta s).pattrib.hdrlen) = _
    rw [hhdr]
    rfl
  rw [hinx] at hnext
  intro j hj
  rw [hinx] at hj
  rw [hmem, hnext]
  obtain rfl | hlt := Nat.eq_or_lt_of_le hj
  · rw [← hpass 0 (Nat.zero_le _)]
    exact le16_copy (putBytes_bytesAt _ _ _ _ _ 22 (by omega)) (by
      have h23 := putBytes_bytesAt (fragPass psta s).mem (fragPass psta s).mem (layoutStart fragLen (s.frgInx + 1))
        TXDESC_OFFSET a.hdrlen 23 (by omega)
      rw [add_assoc, add_assoc]
      exact h23)
  · have hapart := layoutStart_apart fragLen j (s.frgInx + 1) (by omega) hlt
    rw [le16_putBytes_of_ne _ _ _ _ (by omega)]
    exact hpass j (Nat.lt_succ_iff.mp hlt)

end Sequence

/-! ## The fragments of a call -/

section Coalesced
variable {padapter peer : RtwAdapter} {pkt : EthFrame} {pattrib a : PktAttrib} {m : Mem} {o : CoalesceOutcome}
  {psta : StaId} {d : HdrDir} {s : Frag} {x : XmitFrame}

/-- **Every fragment has the sequence control field of the first**, number zero included. -/
theorem Sent.same_seq (ha : AttribOf padapter pkt pattrib a) (h : Sent padapter pkt a m psta d s x o)
    (hfit : ¬ Fits padapter.fragLen a pkt.payload.length) (i : ℕ) (u : Mpdu) (hu : s.mpdus[i]? = some u) :
    le16 s.mem (u.start + 22) = 0xfff0 &&& (nextSeqnum (padapter.staInfo psta) a.priority <<< 4) := by
  have harr : InArrays (sentAttrib padapter a psta) := ⟨ha.inArrays.iv, ha.inArrays.icv⟩
  have h24 : 24 ≤ a.hdrlen := by
    obtain h | h := ha.shape.hdrlen_cases <;> omega
  have hfrag : (28 : ℤ) ≤ padapter.fragLen := by
    unfold Fits at hfit
    rw [not_or, not_or] at hfit
    obtain ⟨-, hroom, -⟩ := hfit
    unfold fragRoom at hroom
    omega
  have hlaid := laid_start (sentAdapter padapter a psta) pkt (sentAttrib padapter a psta)
    (putWlanhdr m TXDESC_OFFSET a d (nextSeqnum (padapter.staInfo psta) a.priority)) ha.pktHdrlen hfit
  have hseq : SameSeq padapter.fragLen (0xfff0 &&& (nextSeqnum (padapter.staInfo psta) a.priority <<< 4))
      (sentStart padapter pkt a m psta d) := by
    intro j hj
    obtain rfl : j = 0 := Nat.le_zero.mp hj
    exact le16_putWlanhdr_seq m TXDESC_OFFSET a d _ ha.shape ha.flags.2
  obtain ⟨t, ⟨ht, htseq⟩, hdone, hs⟩ := coalesceLoop_invariant psta
    (fun t => Laid (sentAttrib padapter a psta) padapter.fragLen pkt.payload t ∧
      SameSeq padapter.fragLen (0xfff0 &&& (nextSeqnum (padapter.staInfo psta) a.priority <<< 4)) t)
    _ _ _ h.loop ⟨hlaid, hseq⟩
    fun t ht hnot => ⟨laid_step harr ht.1 hnot, sameSeq_step harr h24 ht.1 ht.2 hnot⟩
  have hstart := (h.loopEnd.cut.placed i u hu).start
  have hi : i ≤ t.frgInx := by
    have hlt := (List.getElem?_eq_some_iff.mp hu).1
    have hmpdus : s.mpdus = t.mpdus ++ [fragMpdu (fragIv psta t)] := by
      rw [hs]
      exact fragPass_mpdus
    rw [hmpdus, List.length_append, ht.count, List.length_singleton] at hlt
    omega
  have hmem : s.mem = clearMFrag (fragPass psta t).mem t.memStart := by
    rw [hs]
    show clearMFrag _ (fragIv psta t).memStart = _
    rw [fragIv_memStart]
  have hplace : layoutStart padapter.fragLen i = t.memStart ∨
      layoutStart padapter.fragLen i + (padapter.fragLen - 4) ≤ t.memStart := by
    rw [ht.start]
    obtain rfl | hlt := Nat.eq_or_lt_of_le hi
    · exact .inl rfl
    · exact .inr (layoutStart_apart padapter.fragLen i _ (by omega) hlt)
  rw [hmem, hstart, clearMFrag, le16_onLe16_of_ne _ _ _ _ (by omega)]
  exact sameSeq_pass (a := sentAttrib padapter a psta) psta h24 hfrag ht.of ht.start htseq i hi

theorem Sent.not_roundTrip (peer : RtwAdapter) (ha : AttribOf padapter pkt pattrib a) (h : Sent padapter pkt a m psta d s x o)
    (henc : a.encrypt = 0) (hmany : 2 ≤ o.mpdus.length) (text : List UInt8) :
    ¬ FragmentRoundTrip peer o.pxmitframe o.mpdus text := by
  intro hall
  have hmpdus : o.mpdus = s.mpdus := by rw [h.outcome]
  have hfit : ¬ Fits padapter.fragLen a pkt.payload.length := by
    intro hfit
    have hone := h.loopEnd.cut.one.mpr hfit
    rw [hmpdus] at hmany
    omega
  obtain ⟨u, hu⟩ : ∃ u, o.mpdus[1]? = some u := ⟨_, List.getElem?_eq_getElem (by omega)⟩
  have hnum := hall.fragNum 1 u hu
  rw [h.clear_frame ha henc, h.same_seq ha hfit 1 u (hmpdus ▸ hu), getFragNum_setSeqNum] at hnum
  exact Nat.zero_ne_one hnum

/-- **Fragmentation never round-trips.** -/
theorem coalesce_fragments (junk : UInt8) (ha : updateAttrib padapter junk pkt pattrib = some a)
    (henc : a.encrypt = 0) (hrun : rtwXmitframeCoalesce padapter pkt ⟨a, m⟩ = some o) (hret : o.ret = true)
    (hmany : 2 ≤ o.mpdus.length) : ¬ FragmentRoundTrip peer o.pxmitframe o.mpdus
      (rtwPutSnap pkt.etherType ++ pkt.payload) := by
  have hof := updateAttrib_spec padapter junk pkt pattrib a ha
  obtain ⟨psta, d, s, x, hsent⟩ := coalesce_sent hof hrun hret
  exact hsent.not_roundTrip peer hof henc hmany _

end Coalesced

/-! ## A packet in two fragments -/

theorem clearStation_sends : ∃ (a : PktAttrib) (o : CoalesceOutcome),
    updateAttrib (stationAdapter {} {} 256) 0 (zeroEth 400 (by decide)) {} = some a ∧ a.encrypt = 0 ∧
    rtwXmitframeCoalesce (stationAdapter {} {} 256) (zeroEth 400 (by decide)) ⟨a, fun _ => 0⟩ = some o ∧
    o.ret = true ∧ 2 ≤ o.mpdus.length := by
  obtain ⟨a, ha, henc, hsta, hfit⟩ : ∃ a,
      updateAttrib (stationAdapter {} {} 256) 0 (zeroEth 400 (by decide)) {} = some a ∧ a.encrypt = 0 ∧
      xmitSta (stationAdapter {} {} 256) a = some 0 ∧ ¬ Fits 256 a 400 :=
    ⟨_, rfl, rfl, rfl, by decide⟩
  have hof := updateAttrib_spec _ _ _ _ _ ha
  obtain ⟨o, hrun, hret⟩ := coalesce_succeeds (m := fun _ => 0) hof 0 _ hsta rfl
    fun hk => absurd (henc.symm.trans hk) (by decide)
  obtain ⟨psta, d, s, x, hsent⟩ := coalesce_sent hof hrun hret
  have hcut := hsent.loopEnd.cut
  have hmpdus : o.mpdus = s.mpdus := by rw [hsent.outcome]
  have hpos := List.length_pos_of_ne_nil hcut.nonempty
  have hmany : s.mpdus.length ≠ 1 := by
    intro hone
    have hlen : (zeroEth 400 (by decide)).payload.length = 400 := List.length_replicate
    have hfits := hcut.one.mp hone
    rw [hlen] at hfits
    exact hfit hfits
  exact ⟨a, o, ha, henc, hrun, hret, by rw [hmpdus]; omega⟩

theorem coalesce_fragments_two : ∃ (a : PktAttrib) (o : CoalesceOutcome),
    updateAttrib (stationAdapter {} {} 256) 0 (zeroEth 400 (by decide)) {} = some a ∧ 2 ≤ o.mpdus.length ∧
    ¬ FragmentRoundTrip apPeer o.pxmitframe o.mpdus
      (rtwPutSnap (zeroEth 400 (by decide)).etherType ++ (zeroEth 400 (by decide)).payload) := by
  obtain ⟨a, o, ha, henc, hrun, hret, hmany⟩ := clearStation_sends
  exact ⟨a, o, ha, hmany, coalesce_fragments 0 ha henc hrun hret hmany⟩

/-- A packet does not always survive fragmentation. -/
theorem coalesce_fragments_lost : ¬ ∀ (padapter peer : RtwAdapter) (junk : UInt8) (pkt : EthFrame)
    (pattrib a : PktAttrib) (m : Mem) (o : CoalesceOutcome), updateAttrib padapter junk pkt pattrib = some a →
    a.encrypt = 0 → rtwXmitframeCoalesce padapter pkt ⟨a, m⟩ = some o → o.ret = true → 2 ≤ o.mpdus.length →
    FragmentRoundTrip peer o.pxmitframe o.mpdus (rtwPutSnap pkt.etherType ++ pkt.payload) := by
  intro h
  obtain ⟨a, o, ha, henc, hrun, hret, hmany⟩ := clearStation_sends
  have hof := updateAttrib_spec _ _ _ _ _ ha
  obtain ⟨psta, d, s, x, hsent⟩ := coalesce_sent hof hrun hret
  exact hsent.not_roundTrip apPeer hof henc hmany _ (h _ apPeer _ _ _ _ _ _ ha henc hrun hret hmany)

end Rtl8723au
