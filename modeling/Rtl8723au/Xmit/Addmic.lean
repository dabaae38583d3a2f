import Rtl8723au.Recv.Defrag
import Rtl8723au.Xmit.RoundTrip

/-! The Michael code of a transmitted frame, `xmitframe_addmic` against `recvframe_chkmic`. The walk over
the fragments does not follow the layout behind the first one. -/
namespace Rtl8723au
open Mem Wifi Security
set_option autoImplicit false

/-! ## The property -/

/-- `rtw_xmitframe_coalesce` up to `xmitframe_addmic`: the adapter, the frame, the MPDUs. -/
def coalesceFrame (padapter : RtwAdapter) (pkt : EthFrame) (f : XmitFrame) :
    Option (RtwAdapter × XmitFrame × List Mpdu) := do
  let psta ← xmitSta padapter f.attrib
  let (padapter, pattrib, mem) ← rtwMakeWlanhdr padapter f.mem TXDESC_OFFSET f.attrib
  let s ← coalesceLoop psta (pkt.data.length + 2) (fragStart padapter pkt pattrib mem)
  pure (s.padapter, ⟨s.pattrib, s.mem⟩, s.mpdus)

def payloadEnd (a : PktAttrib) (u : Mpdu) : ℤ := u.start + a.hdrlen + a.ivLen + u.text.length

def wirePriority (m : Mem) (hdr : ℤ) : ℕ :=
  if getFrameSubType (le16 m hdr) &&& 0x80 != 0 then getPriority (le16 m (hdr + 24)) else 0

/-- The code a receiver computes over the addresses and the priority of the header, and `text`. -/
def peerMic (key : Skey) (m : Mem) (text : List UInt8) : List UInt8 :=
  rtwSecgetmic (rtwSecmicappend (micPseudoHeader (rtwSecmicsetkey key) m TXDESC_OFFSET
    (UInt8.ofNat (wirePriority m TXDESC_OFFSET))) text)

/-- The frame `g` put together again at a peer that has the key for its unicast sender: the header of the
first MPDU, the text, and the eight bytes behind the payload of the last MPDU, `u`. -/
structure Reassembled (peer : RtwAdapter) (key : Skey) (g : XmitFrame) (u : Mpdu) (text : List UInt8)
    (f : RecvFrame) : Prop where
  parsed : ∃ psta k, f.attrib = { (parsedFrame peer psta f).attrib with keyIndex := k }
  encrypt : f.attrib.encrypt = TKIP
  unicast : isMulticastEtherAddr f.attrib.ra = false
  key : ∃ psta, rtwGetStainfo peer.stapriv (some f.attrib.ta) = some psta ∧
    (peer.stapriv.staInfo psta).dot11tkiprxmickey = key
  header : ∀ k < g.attrib.hdrlen, f.rxDataMem (k : ℕ) = g.mem (TXDESC_OFFSET + (k : ℕ))
  payload : bytesAt f.rxDataMem (g.attrib.hdrlen + 8) text.length = text
  mic : bytesAt f.rxDataMem (g.attrib.hdrlen + 8 + text.length) 8 = bytesAt g.mem (payloadEnd g.attrib u) 8
  len : f.len = g.attrib.hdrlen + 8 + text.length + 8 + 4

/-- What the code is for: it is put behind the payload, it is the one the peer computes, and the peer takes
the frame; how the payload is cut does not matter to it. -/
structure MicAgrees (q : RtwAdapter) (f g : XmitFrame) (mpdus : List Mpdu) (text : List UInt8) (key : Skey) :
    Prop where
  place : ∀ u : Mpdu, mpdus[mpdus.length - 1]? = some u → (addmicWalk q f key).1 = payloadEnd f.attrib u
  code : rtwSecgetmic (addmicWalk q f key).2 = peerMic key g.mem text
  accepted : ∀ (peer : RtwAdapter) (u : Mpdu) (r : RecvFrame), mpdus[mpdus.length - 1]? = some u →
    Reassembled peer key g u text r → (recvframeChkmic peer r).1 = true
  pieces : ∀ (d : MicData) (l : List (List UInt8)), l.foldl rtwSecmicappend d = rtwSecmicappend d l.flatten

/-- The code is computed with the priority that the header gets. -/
def SamePriority (padapter : RtwAdapter) (a : PktAttrib) : Prop :=
  a.priority = 0 ∨ padapter.checkFwstate WIFI_STATION_STATE = false ∨
    (a.qosEn ≠ 0 ↔ padapter.mlmepriv.qosOption ≠ 0)

/-! ## Appending -/

theorem rtwSecmicappend_flatten (d : MicData) (l : List (List UInt8)) :
    l.foldl rtwSecmicappend d = rtwSecmicappend d l.flatten := by
  induction l generalizing d with
  | nil => rfl
  | cons x l ih => rw [List.foldl_cons, ih, List.flatten_cons, rtwSecmicappend_append]

/-! ## The walk -/

section Walk
variable (f : XmitFrame) (d : MicData) (fragLen : ℕ)

theorem micWalk_behind (hicv : f.attrib.icvLen = 4) (n : ℕ) (hn : n < f.attrib.nrFrags) :
    rnd4 (micWalk fragLen f d n).1 ≤ layoutStart fragLen n ∧
      (0 < n → rnd4 (micWalk fragLen f d n).1 < layoutStart fragLen n) := by
  induction n with
  | zero =>
    refine ⟨?_, fun h => absurd h (lt_irrefl 0)⟩
    show rnd4 (TXDESC_OFFSET : ℕ) ≤ (TXDESC_OFFSET : ℕ)
    decide
  | succ n ih =>
    obtain ⟨hle, -⟩ := ih (Nat.lt_of_succ_lt hn)
    have hlt : rnd4 (micWalk fragLen f d (n + 1)).1 < layoutStart fragLen (n + 1) := by
      have hwalk : (micWalk fragLen f d (n + 1)).1 ≤ rnd4 (micWalk fragLen f d n).1 + fragLen + 4 := by
        rw [micWalk]
        dsimp only
        rw [if_neg (by omega), hicv]
        dsimp only
        split <;> push_cast <;> omega
      have hrnd := rnd4_bounds (micWalk fragLen f d (n + 1)).1
      have hnext := rnd4_bounds (layoutStart fragLen n + (fragLen - 4))
      have hoff : (TXDESC_OFFSET : ℤ) = 40 := rfl
      show _ < rnd4 (layoutStart fragLen n + (fragLen - 4)) + TXDESC_OFFSET
      omega
    exact ⟨hlt.le, fun _ => hlt⟩

/-- The last turn digests what `last_txcmdsz` leaves of the last MPDU. -/
theorem micWalk_last (n size : ℕ) (hn : f.attrib.nrFrags = n + 1)
    (hsize : f.attrib.lastTxcmdsz = f.attrib.hdrlen + f.attrib.ivLen + size + icvRoom f.attrib) :
    micWalk fragLen f d (n + 1) =
      (rnd4 (micWalk fragLen f d n).1 + f.attrib.hdrlen + f.attrib.ivLen + size,
        rtwSecmicappend (micWalk fragLen f d n).2
          (bytesAt f.mem (rnd4 (micWalk fragLen f d n).1 + f.attrib.hdrlen + f.attrib.ivLen) (uint size))) := by
  have hlen : (f.attrib.lastTxcmdsz : ℤ) - f.attrib.hdrlen - f.attrib.ivLen -
      ((if f.attrib.bswenc then f.attrib.icvLen else 0 : ℕ) : ℤ) = size := by
    rw [hsize, icvRoom]
    push_cast
    ring
  rw [micWalk]
  dsimp only
  rw [if_pos hn.symm, hlen]

theorem micWalk_one (size : ℕ) (hn : f.attrib.nrFrags = 1)
    (hsize : f.attrib.lastTxcmdsz = f.attrib.hdrlen + f.attrib.ivLen + size + icvRoom f.attrib) :
    micWalk fragLen f d 1 = ((TXDESC_OFFSET : ℤ) + f.attrib.hdrlen + f.attrib.ivLen + size,
      rtwSecmicappend d (bytesAt f.mem (TXDESC_OFFSET + f.attrib.hdrlen + f.attrib.ivLen) (uint size))) := by
  have hlast := micWalk_last f d fragLen 0 size hn hsize
  have hstart : rnd4 (micWalk fragLen f d 0).1 = TXDESC_OFFSET := by
    show rnd4 (TXDESC_OFFSET : ℕ) = _
    decide
  rw [hstart] at hlast
  exact hlast

end Walk

/-! ## The pseudo header -/

section Header
variable {a : PktAttrib} {d : HdrDir} {seqnum : ℕ} {m m' : Mem} {p p' : ℤ}

theorem HdrOf.wirePriority (h : HdrOf a d seqnum m p) (hshape : HdrShape a) (hmdata : a.mdata = false)
    (hprio : a.priority < 8) (hds : d.ds = 0 ∨ d.ds = 0x100 ∨ d.ds = 0x200) :
    wirePriority m p = if a.hdrlen = 26 ∧ d.qosOption = true then a.priority else 0 := by
  have hbits : ∀ n < 8, getPriority (n &&& 0xf) = n := by decide
  have hfc := hdrFc_fields (d := d) hshape hmdata hds
  unfold Rtl8723au.wirePriority
  rw [h.fc, hfc.qos]
  by_cases h26 : a.hdrlen = 26
  · rw [if_pos (by rw [h26]; rfl), h.qos h26]
    cases d.qosOption with
    | true =>
      rw [if_pos rfl, if_pos ⟨h26, rfl⟩]
      exact hbits _ hprio
    | false =>
      rw [if_neg Bool.false_ne_true, if_neg fun hboth => Bool.false_ne_true hboth.2]
      rfl
  · rw [if_neg (by rw [beq_iff_eq]; exact h26), if_neg fun hboth => h26 hboth.1]

theorem HdrOf.micAddrs (h : HdrOf a d seqnum m p) (hshape : HdrShape a) (hmdata : a.mdata = false)
    (hds : d.ds = 0 ∨ d.ds = 0x100 ∨ d.ds = 0x200) : micAddrs (m (p + 1)) = (16, 10) ∨
      micAddrs (m (p + 1)) = (4, 16) ∨ micAddrs (m (p + 1)) = (4, 10) := by
  have hbyte : m (p + 1) = UInt8.ofNat (hdrFc a d / 256) := by
    have h0 := (m p).toNat_lt
    rw [← h.fc, le16]
    apply UInt8.toNat_inj.mp
    rw [UInt8.toNat_ofNat']
    have h1 := (m (p + 1)).toNat_lt
    omega
  obtain ⟨sub, e, hfc, hsub, he⟩ := hdrFc_cases (d := d) hshape hmdata
  rw [hbyte, hfc]
  obtain ⟨rfl, -⟩ | ⟨rfl, -⟩ := hsub <;> obtain hd | hd | hd := hds <;> obtain ⟨rfl, -⟩ | ⟨rfl, -⟩ := he <;>
    rw [hd] <;> decide

theorem HdrOf.pseudoHeader (h : HdrOf a d seqnum m p) (hshape : HdrShape a) (hmdata : a.mdata = false)
    (hds : d.ds = 0 ∨ d.ds = 0x100 ∨ d.ds = 0x200)
    (heq : ∀ k < a.hdrlen, m' (p' + (k : ℕ)) = m (p + (k : ℕ))) (x : MicData) (pri : UInt8) :
    micPseudoHeader x m' p' pri = micPseudoHeader x m p pri := by
  have hlen : 24 ≤ a.hdrlen := by
    obtain h | h := hshape.hdrlen_cases <;> omega
  have hbyte : m' (p' + 1) = m (p + 1) := heq 1 (by omega)
  have hstretch : ∀ i : ℕ, i + 6 ≤ 24 → bytesAt m' (p' + i) 6 = bytesAt m (p + i) 6 := by
    intro i hi
    apply List.map_congr_left
    intro k hk
    have hk' := List.mem_range.mp hk
    have hsame := heq (i + k) (by omega)
    rw [Nat.cast_add, ← add_assoc, ← add_assoc] at hsame
    exact hsame
  have h4 : bytesAt m' (p' + 4) 6 = bytesAt m (p + 4) 6 := hstretch 4 (by omega)
  have h10 : bytesAt m' (p' + 10) 6 = bytesAt m (p + 10) 6 := hstretch 10 (by omega)
  have h16 : bytesAt m' (p' + 16) 6 = bytesAt m (p + 16) 6 := hstretch 16 (by omega)
  unfold micPseudoHeader
  rw [hbyte]
  obtain hc | hc | hc := h.micAddrs hshape hmdata hds <;> rw [hc] <;> dsimp only
  · rw [h16, h10]
  · rw [h4, h16]
  · rw [h4, h10]

theorem micCode_eq_iff (key : Skey) (pri pri' : UInt8) (text : List UInt8) :
    rtwSecgetmic (rtwSecmicappend (micPseudoHeader (rtwSecmicsetkey key) m p pri) text) =
      rtwSecgetmic (rtwSecmicappend (micPseudoHeader (rtwSecmicsetkey key) m p pri') text) ↔ pri = pri' := by
  constructor
  · intro heq
    by_contra hne
    have hdiv := diverged_priority (rtwSecmicsetkey key) m p pri pri' (pending_setkey key) hne
    exact diverged_getmic _ _ (diverged_append _ _ text hdiv) heq
  · rintro rfl
    rfl

end Header

/-! ## The frame of a call -/

section Coalesced
variable {padapter : RtwAdapter} {pkt : EthFrame} {pattrib a : PktAttrib} {m : Mem} {o : CoalesceOutcome}
  {psta : StaId} {d : HdrDir} {s : Frag} {g : XmitFrame}

theorem Sent.coalesceFrame (ha : AttribOf padapter pkt pattrib a) (h : Sent padapter pkt a m psta d s g o) :
    coalesceFrame padapter pkt ⟨a, m⟩ = some (s.padapter, ⟨s.pattrib, s.mem⟩, s.mpdus) := by
  unfold Rtl8723au.coalesceFrame
  dsimp only
  rw [h.sta, Option.bind_eq_bind, Option.bind_some, makeWlanhdr_eq ha psta h.sta, h.dir, Option.map_some,
    Option.bind_eq_bind, Option.bind_some]
  dsimp only
  have hloop := h.loop
  change coalesceLoop psta (pkt.data.length + 2) (fragStart (sentAdapter padapter a psta) pkt
    (sentAttrib padapter a psta) _) = some s at hloop
  rw [hloop, Option.bind_eq_bind, Option.bind_some]
  rfl

theorem Sent.frame_sizes (h : Sent padapter pkt a m psta d s g o)
    (u : Mpdu) (hu : s.mpdus[s.mpdus.length - 1]? = some u) : s.pattrib.lastTxcmdsz =
      s.pattrib.hdrlen + s.pattrib.ivLen + u.text.length + icvRoom s.pattrib := by
  have hend := h.loopEnd
  rw [hend.lastTxcmdsz u hu, hend.attrib]
  rfl

/-- **The code is put behind the payload** exactly when there is one MPDU. -/
theorem Sent.place_iff (ha : AttribOf padapter pkt pattrib a) (h : Sent padapter pkt a m psta d s g o)
    (htkip : a.encrypt = TKIP) (key : Skey) : (∀ u : Mpdu, s.mpdus[s.mpdus.length - 1]? = some u →
      (addmicWalk s.padapter ⟨s.pattrib, s.mem⟩ key).1 = payloadEnd s.pattrib u) ↔
    Fits padapter.fragLen a pkt.payload.length := by
  have hend := h.loopEnd
  have hcut := hend.cut
  have hpos := List.length_pos_of_ne_nil hcut.nonempty
  obtain ⟨u, hu⟩ : ∃ u, s.mpdus[s.mpdus.length - 1]? = some u := ⟨_, List.getElem?_eq_getElem (by omega)⟩
  have hsize := h.frame_sizes u hu
  have hstart := (hcut.placed _ u hu).start
  have hicv : s.pattrib.icvLen = 4 := by
    have hlens := ha.lens
    rw [htkip, Prod.mk.injEq] at hlens
    rw [hend.attrib]
    exact hlens.2
  have hwalk : ∀ n, s.pattrib.nrFrags = n + 1 → (addmicWalk s.padapter ⟨s.pattrib, s.mem⟩ key).1 =
      rnd4 (micWalk padapter.fragLen ⟨s.pattrib, s.mem⟩ (micPseudoHeader (rtwSecmicsetkey key) s.mem TXDESC_OFFSET
        (micPriority s.pattrib)) n).1 + s.pattrib.hdrlen + s.pattrib.ivLen + u.text.length := by
    intro n hn
    unfold addmicWalk
    rw [hend.fragLen, hn, micWalk_last _ _ _ n _ hn hsize]
  have hend' : payloadEnd s.pattrib u = layoutStart padapter.fragLen (s.mpdus.length - 1) + s.pattrib.hdrlen +
      s.pattrib.ivLen + u.text.length := by
    rw [payloadEnd, hstart]
  constructor
  · intro hplace
    by_contra hfit
    have hmany : s.mpdus.length ≠ 1 := fun hone => hfit (hcut.one.mp hone)
    have hfrag : 5 ≤ padapter.fragLen := by
      change ¬ (_ ∨ _ ∨ _) at hfit
      rw [not_or, not_or] at hfit
      obtain ⟨-, hroom, -⟩ := hfit
      unfold fragRoom at hroom
      omega
    have hput := hplace u hu
    rw [hend'] at hput
    have hnr := hend.nrFrags
    cases hn : s.pattrib.nrFrags with
    | zero =>
      have hzero : (addmicWalk s.padapter ⟨s.pattrib, s.mem⟩ key).1 = layoutStart padapter.fragLen 0 := by
        unfold addmicWalk
        rw [hn]
        rfl
      have hapart := layoutStart_apart padapter.fragLen 0 (s.mpdus.length - 1) (by omega) (by omega)
      have hhdr : 24 ≤ s.pattrib.hdrlen := by
        rw [hend.attrib]
        show 24 ≤ a.hdrlen
        obtain h | h := ha.shape.hdrlen_cases <;> omega
      omega
    | succ n =>
      rw [hwalk n hn] at hput
      obtain ⟨hle, hlt⟩ := micWalk_behind ⟨s.pattrib, s.mem⟩ (micPseudoHeader (rtwSecmicsetkey key) s.mem
        TXDESC_OFFSET (micPriority s.pattrib)) padapter.fragLen hicv n
        (by show n < s.pattrib.nrFrags; omega)
      obtain heq | hless : n = s.mpdus.length - 1 ∨ n < s.mpdus.length - 1 := by omega
      · have hstrict := hlt (by omega)
        rw [heq] at hstrict hput
        omega
      · have hapart := layoutStart_apart padapter.fragLen n (s.mpdus.length - 1) (by omega) hless
        omega
  · intro hfit v hv
    rw [hu] at hv
    cases hv
    obtain ⟨-, -, hnr, -⟩ := hend.one hfit
    have hone := hcut.one.mpr hfit
    rw [hwalk 0 hnr, hend', hone]
    rfl

theorem Sent.qosEn (ha : AttribOf padapter pkt pattrib a) (h : Sent padapter pkt a m psta d s g o) :
    a.qosEn = (padapter.staInfo psta).qosOption := by
  obtain ⟨p, hp, -, hq⟩ := ha.psta
  have hsta := h.sta
  rw [xmitSta, hp] at hsta
  change linkedSta padapter p = some psta at hsta
  unfold linkedSta at hsta
  split at hsta
  · cases hsta
    exact hq
  · cases hsta

theorem hdrDir_qosOption {info : StaInfo} (h : hdrDir padapter a info = some d) : d.qosOption =
    if padapter.checkFwstate WIFI_STATION_STATE then padapter.mlmepriv.qosOption != 0 else info.qosOption != 0 := by
  unfold hdrDir at h
  split at h
  · rename_i hsta
    cases h
    rw [if_pos hsta]
  · rename_i hsta
    rw [if_neg hsta]
    split at h
    · cases h
      rfl
    · split at h
      · cases h
        rfl
      · cases h

/-- The two priorities are one exactly under `SamePriority`. -/
theorem Sent.priority_iff (ha : AttribOf padapter pkt pattrib a) (h : Sent padapter pkt a m psta d s g o) :
    micPriority a = UInt8.ofNat (if a.hdrlen = 26 ∧ d.qosOption = true then a.priority else 0) ↔
      SamePriority padapter a := by
  have hprio := ha.priority
  have hofNat : UInt8.ofNat a.priority = 0 ↔ a.priority = 0 := by
    rw [← UInt8.toNat_inj, UInt8.toNat_ofNat']
    show a.priority % 2 ^ 8 = 0 ↔ _
    omega
  by_cases hz : a.priority = 0
  · unfold micPriority
    rw [hz, ite_self]
    refine iff_of_true ?_ (.inl hz)
    split <;> rfl
  have h26 : a.hdrlen = 26 := by
    cases ha.shape with
    | plain hlen hsub hp => exact absurd hp hz
    | qos hlen hsub => exact hlen
  have hboth : micPriority a = UInt8.ofNat (if a.hdrlen = 26 ∧ d.qosOption = true then a.priority else 0) ↔
      (a.qosEn ≠ 0 ↔ d.qosOption = true) := by
    unfold micPriority
    by_cases hq : a.qosEn ≠ 0
    · rw [if_pos hq]
      by_cases hd : d.qosOption = true
      · rw [if_pos ⟨h26, hd⟩]
        exact iff_of_true rfl (iff_of_true hq hd)
      · rw [if_neg fun hc => hd hc.2]
        exact iff_of_false (fun heq => hz (hofNat.mp heq)) fun hiff => hd (hiff.mp hq)
    · rw [if_neg hq]
      by_cases hd : d.qosOption = true
      · rw [if_pos ⟨h26, hd⟩]
        exact iff_of_false (fun heq => hz (hofNat.mp heq.symm)) fun hiff => hq (hiff.mpr hd)
      · rw [if_neg fun hc => hd hc.2]
        exact iff_of_true rfl (iff_of_false hq hd)
  rw [hboth, hdrDir_qosOption h.dir, h.qosEn ha, SamePriority, h.qosEn ha, or_iff_right hz]
  split
  · rename_i hsta
    rw [bne_iff_ne, or_iff_right (by rw [hsta]; exact fun hc => Bool.false_ne_true hc.symm)]
  · rename_i hsta
    rw [bne_iff_ne]
    exact iff_of_true Iff.rfl (.inl (Bool.not_eq_true _ ▸ hsta))

/-- What `xmitframe_addmic` does to a TKIP frame. -/
theorem xmitframeAddmic_tkip (q : RtwAdapter) (f : XmitFrame) (htkip : f.attrib.encrypt = TKIP)
    (h : xmitframeAddmic q f = some g) : ∃ p key, xmitSta q f.attrib = some p ∧
      txMickey q f.attrib p = some key ∧ g = ⟨addLastTxcmdsz f.attrib 8,
        putBytes f.mem (addmicWalk q f key).1 (rtwSecgetmic (addmicWalk q f key).2)⟩ := by
  unfold xmitframeAddmic at h
  obtain ⟨p, hp, h⟩ := Option.bind_eq_some_iff.mp h
  rw [if_pos htkip] at h
  obtain ⟨key, hkey, h⟩ := Option.bind_eq_some_iff.mp h
  exact ⟨p, key, hp, hkey, (Option.some.inj h).symm⟩

/-- One MPDU with its Michael code. -/
structure MicMpdu (a : PktAttrib) (d : HdrDir) (seqnum : ℕ) (key : Skey) (text : List UInt8) (f g : XmitFrame)
    (w : ℤ × MicData) : Prop where
  frame : OneMpdu a d seqnum (f.attrib.iv.toList.take a.ivLen) text f.mem
  place : w.1 = TXDESC_OFFSET + a.hdrlen + a.ivLen + text.length
  digest : w.2 = rtwSecmicappend
    (micPseudoHeader (rtwSecmicsetkey key) f.mem TXDESC_OFFSET (micPriority a)) text
  mem : g.mem = putBytes f.mem w.1 (rtwSecgetmic w.2)

theorem Sent.micMpdu (ha : AttribOf padapter pkt pattrib a) (h : Sent padapter pkt a m psta d s g o)
    (hfit : Fits padapter.fragLen a pkt.payload.length) (key : Skey)
    (hg : g = ⟨addLastTxcmdsz s.pattrib 8, putBytes s.mem (addmicWalk s.padapter ⟨s.pattrib, s.mem⟩ key).1
      (rtwSecgetmic (addmicWalk s.padapter ⟨s.pattrib, s.mem⟩ key).2)⟩) :
    MicMpdu a d (nextSeqnum (padapter.staInfo psta) a.priority) key (rtwPutSnap pkt.etherType ++ pkt.payload)
      ⟨s.pattrib, s.mem⟩ g (addmicWalk s.padapter ⟨s.pattrib, s.mem⟩ key) := by
  have hend := h.loopEnd
  have hone := h.oneMpdu ha hfit
  have hpay := pkt.payload_lt
  obtain ⟨u, hu, hnr, hsz⟩ := hend.one hfit
  have hlens : s.pattrib.hdrlen = a.hdrlen ∧ s.pattrib.ivLen = a.ivLen ∧ icvRoom s.pattrib = icvRoom a ∧
      micPriority s.pattrib = micPriority a := by
    rw [hend.attrib]
    exact ⟨rfl, rfl, rfl, rfl⟩
  have htext : (rtwPutSnap pkt.etherType ++ pkt.payload).length = pkt.payload.length + 8 := by
    rw [List.length_append, rtwPutSnap_length, Nat.add_comm]
  have hwalk : addmicWalk s.padapter ⟨s.pattrib, s.mem⟩ key =
      ((TXDESC_OFFSET : ℤ) + a.hdrlen + a.ivLen + (rtwPutSnap pkt.etherType ++ pkt.payload).length,
        rtwSecmicappend (micPseudoHeader (rtwSecmicsetkey key) s.mem TXDESC_OFFSET (micPriority a))
          (rtwPutSnap pkt.etherType ++ pkt.payload)) := by
    have hsize : s.pattrib.lastTxcmdsz =
        s.pattrib.hdrlen + s.pattrib.ivLen + (pkt.payload.length + 8) + icvRoom s.pattrib := by
      rw [hsz, hlens.1, hlens.2.1, hlens.2.2.1]
      rfl
    unfold addmicWalk
    dsimp only
    rw [hnr, micWalk_one ⟨s.pattrib, s.mem⟩ _ _ _ hnr hsize]
    dsimp only
    rw [hlens.1, hlens.2.1, hlens.2.2.2, uint_natCast _ (by omega), ← htext, hone.text]
  refine ⟨hone, ?_, ?_, ?_⟩
  · rw [hwalk]
  · rw [hwalk]
  · rw [hg]

/-! ## One MPDU with its code -/

section MicMpdu
variable {seqnum : ℕ} {key : Skey} {text : List UInt8} {f : XmitFrame} {w : ℤ × MicData} {peer : RtwAdapter}
  {r : RecvFrame} {u : Mpdu}

theorem length_getmic (x : MicData) : (rtwSecgetmic x).length = 8 := rfl

theorem MicMpdu.front (h : MicMpdu a d seqnum key text f g w) (k : ℕ) (hk : k < a.hdrlen) :
    g.mem (TXDESC_OFFSET + (k : ℕ)) = f.mem (TXDESC_OFFSET + (k : ℕ)) := by
  have hplace := h.place
  rw [h.mem]
  exact putBytes_outside _ _ _ _ (by omega)

theorem MicMpdu.header (h : MicMpdu a d seqnum key text f g w) (hlen : 24 ≤ a.hdrlen) :
    HdrOf a d seqnum g.mem TXDESC_OFFSET :=
  h.frame.header.copy hlen h.front

theorem MicMpdu.code (h : MicMpdu a d seqnum key text f g w) : bytesAt g.mem w.1 8 = rtwSecgetmic w.2 := by
  have hput := bytesAt_putBytes (m := f.mem) (p := w.1) [] (rtwSecgetmic w.2) []
  rw [List.nil_append, List.append_nil, List.length_nil, Nat.cast_zero, add_zero, length_getmic] at hput
  rw [h.mem]
  exact hput

/-- **The code is the one the peer computes** exactly when the header carries the priority it was
computed with. -/
theorem MicMpdu.code_iff (h : MicMpdu a d seqnum key text f g w) (hshape : HdrShape a) (hmdata : a.mdata = false)
    (hprio : a.priority < 8) (hds : d.ds = 0 ∨ d.ds = 0x100 ∨ d.ds = 0x200) :
    rtwSecgetmic w.2 = peerMic key g.mem text ↔
      micPriority a = UInt8.ofNat (if a.hdrlen = 26 ∧ d.qosOption = true then a.priority else 0) := by
  have hlen : 24 ≤ a.hdrlen := by
    obtain h | h := hshape.hdrlen_cases <;> omega
  rw [h.digest, peerMic, (h.header hlen).wirePriority hshape hmdata hprio hds,
    h.frame.header.pseudoHeader hshape hmdata hds h.front]
  exact micCode_eq_iff key _ _ text

theorem Reassembled.attrib (h : Reassembled peer key g u text r) (hhdr : HdrOf a d seqnum r.rxDataMem 0)
    (hshape : HdrShape a) (hmdata : a.mdata = false) (hprio : a.priority < 8) (henc : a.encrypt ≠ 0)
    (hds : d.ds = 0 ∨ d.ds = 0x100 ∨ d.ds = 0x200) :
    r.attrib.hdrlen = a.hdrlen ∧ r.attrib.ivLen = 8 ∧ r.attrib.icvLen = 4 ∧
      r.attrib.priority = if a.hdrlen = 26 ∧ d.qosOption = true then a.priority else 0 := by
  obtain ⟨psta, k, hparsed⟩ := h.parsed
  have hread := hhdr.dataAttrib hshape hmdata hprio hds r.attrib
  have htkip := h.encrypt
  have hattrib : (parsedFrame peer psta r).attrib =
      setCipher peer psta (Rtl8723au.dataAttrib r.rxDataMem (dataFrame r).attrib) := rfl
  have hpriv : (Rtl8723au.dataAttrib r.rxDataMem (dataFrame r).attrib).privacy = true :=
    hread.privacy.trans (bne_iff_ne.mpr henc)
  rw [hattrib, setCipher, if_pos hpriv] at hparsed
  rw [hparsed] at htkip ⊢
  dsimp only at htkip ⊢
  rw [htkip]
  exact ⟨hread.hdrlen, rfl, rfl, hread.priority⟩

/-- **The peer takes the frame** whose code is the one it computes. -/
theorem MicMpdu.accepted (h : MicMpdu a d seqnum key text f g w) (hshape : HdrShape a) (hmdata : a.mdata = false)
    (hprio : a.priority < 8) (hds : d.ds = 0 ∨ d.ds = 0x100 ∨ d.ds = 0x200) (htkip : a.encrypt = TKIP)
    (hg : g.attrib.hdrlen = a.hdrlen) (hlt : text.length < 2 ^ 31) (hu : w.1 = payloadEnd g.attrib u)
    (hsame : micPriority a = UInt8.ofNat (if a.hdrlen = 26 ∧ d.qosOption = true then a.priority else 0))
    (hr : Reassembled peer key g u text r) : (recvframeChkmic peer r).1 = true := by
  have hlen : 24 ≤ a.hdrlen := by
    obtain h | h := hshape.hdrlen_cases <;> omega
  have hfront : ∀ k < a.hdrlen, r.rxDataMem (0 + (k : ℕ)) = g.mem (TXDESC_OFFSET + (k : ℕ)) := by
    intro k hk
    rw [zero_add]
    exact hr.header k (hg ▸ hk)
  obtain ⟨hhdrlen, hiv, hicv, hpri⟩ := hr.attrib ((h.header hlen).copy hlen hfront) hshape hmdata hprio
    (by rw [htkip]; decide) hds
  have hrlen := hr.len
  rw [hg] at hrlen
  have hdatalen : micDatalen r = text.length := by
    have hcast : (r.len : ℤ) - r.attrib.hdrlen - r.attrib.ivLen - r.attrib.icvLen - 8 = (text.length : ℕ) := by
      rw [hhdrlen, hiv, hicv]
      omega
    rw [micDatalen, hcast, uint_natCast _ (by omega)]
  have hpay : micPayload r = r.rxData + (a.hdrlen + 8 : ℕ) := by
    rw [micPayload, hhdrlen, hiv]
    push_cast
    ring
  have hshift : ∀ (x : ℤ) (n : ℕ), bytesAt r.rxDataMem x n = bytesAt r.mem (r.rxData + x) n := by
    intro x n
    apply List.map_congr_left
    intro k _
    show r.mem (r.rxData + (x + k)) = _
    rw [add_assoc]
  have htext : bytesAt r.mem (micPayload r) text.length = text := by
    have hpayload := hr.payload
    rw [hg, hshift] at hpayload
    rw [hpay]
    push_cast
    exact hpayload
  have hmic : bytesAt r.mem (micPayload r + text.length) 8 = rtwSecgetmic w.2 := by
    have hput := hr.mic
    rw [hg, hshift, ← hu, h.code] at hput
    rw [hpay, ← hput]
    push_cast
    rw [add_assoc]
  have hheader : ∀ x pri, micPseudoHeader x r.mem r.rxData pri = micPseudoHeader x f.mem TXDESC_OFFSET pri := by
    intro x pri
    refine h.frame.header.pseudoHeader hshape hmdata hds (fun k hk => ?_) x pri
    rw [← h.front k hk, ← hr.header k (hg ▸ hk)]
    rfl
  obtain ⟨psta, hsta, hkey⟩ := hr.key
  have hmatch : micMatches peer r psta = true := by
    have hrx : rxMickey peer r psta = key := by
      rw [rxMickey, if_neg (by rw [hr.unicast]; exact Bool.false_ne_true)]
      exact hkey
    rw [micMatches, hrx, hdatalen, hpri, ← hsame, rtwSeccalctkipmic, hheader, htext, hmic, h.digest]
    exact beq_self_eq_true _
  unfold recvframeChkmic
  rw [if_pos hr.encrypt, hsta]
  dsimp only
  rw [hr.unicast, Bool.false_and, if_neg Bool.false_ne_true, if_pos hmatch]

end MicMpdu

end Coalesced

/-! ## The claim -/

section Agreement
variable {padapter : RtwAdapter} {pkt : EthFrame} {pattrib a : PktAttrib} {m : Mem} {o : CoalesceOutcome}

/-- **Sender and receiver agree on the Michael code** of a frame exactly when it goes out as one MPDU and the
header carries the priority the code was computed with. -/
theorem coalesce_mic_iff (junk : UInt8) (ha : updateAttrib padapter junk pkt pattrib = some a)
    (htkip : a.encrypt = TKIP) (hrun : rtwXmitframeCoalesce padapter pkt ⟨a, m⟩ = some o) (hret : o.ret = true) :
    ∃ f g key, coalesceFrame padapter pkt ⟨a, m⟩ = some (o.padapter, f, o.mpdus) ∧
      xmitframeAddmic o.padapter f = some g ∧ o.pxmitframe = xmitframeSwencrypt o.padapter g ∧
      (∃ psta, xmitSta o.padapter f.attrib = some psta ∧ txMickey o.padapter f.attrib psta = some key) ∧
      (MicAgrees o.padapter f g o.mpdus (rtwPutSnap pkt.etherType ++ pkt.payload) key ↔
        Fits padapter.fragLen a pkt.payload.length ∧ SamePriority padapter a) := by
  have hof := updateAttrib_spec padapter junk pkt pattrib a ha
  obtain ⟨psta, d, s, g, hsent⟩ := coalesce_sent hof hrun hret
  have hend := hsent.loopEnd
  have hds := hdrDir_ds hsent.dir
  have hpay := pkt.payload_lt
  have henc : s.pattrib.encrypt = TKIP := by
    rw [hend.attrib]
    exact htkip
  obtain ⟨p, key, hsta, hkey, hg⟩ := xmitframeAddmic_tkip s.padapter ⟨s.pattrib, s.mem⟩ henc hsent.addmic
  have hout := hsent.outcome
  rw [hout]
  refine ⟨⟨s.pattrib, s.mem⟩, g, key, hsent.coalesceFrame hof, hsent.addmic, rfl, ⟨p, hsta, hkey⟩, ?_⟩
  have hplace := hsent.place_iff hof htkip key
  have hprio := hsent.priority_iff hof
  constructor
  · intro hagree
    have hfit := hplace.mp hagree.place
    have hmic := hsent.micMpdu hof hfit key hg
    exact ⟨hfit, hprio.mp ((hmic.code_iff hof.shape hof.flags.1 hof.priority hds).mp hagree.code)⟩
  · rintro ⟨hfit, hsame⟩
    have hmic := hsent.micMpdu hof hfit key hg
    have hpri := hprio.mpr hsame
    have hput := hplace.mpr hfit
    refine ⟨hput, (hmic.code_iff hof.shape hof.flags.1 hof.priority hds).mpr hpri, ?_, rtwSecmicappend_flatten⟩
    intro peer u r hu hr
    have hattrib : payloadEnd g.attrib u = payloadEnd s.pattrib u := by
      rw [hg]
      rfl
    have hhdrlen : g.attrib.hdrlen = a.hdrlen := by
      rw [hg]
      show s.pattrib.hdrlen = a.hdrlen
      rw [hend.attrib]
      rfl
    have htext : (rtwPutSnap pkt.etherType ++ pkt.payload).length < 2 ^ 31 := by
      rw [List.length_append, rtwPutSnap_length]
      omega
    exact hmic.accepted hof.shape hof.flags.1 hof.priority hds htkip hhdrlen htext
      ((hput u hu).trans hattrib.symm) hpri hr

end Agreement

/-! ## A station under TKIP -/

def tkipStation (fragLen : ℕ) : RtwAdapter :=
  stationAdapter { dot11PrivacyAlgrthm := TKIP, busetkipkey := true }
    { dot11tkiptxmickey := Vector.replicate 16 1 } fragLen

theorem tkipStation_mickey (fragLen : ℕ) (a : PktAttrib) (hra : isMulticastEtherAddr a.ra = false) :
    txMickey (tkipStation fragLen) a 0 = some (Vector.replicate 16 1) := by
  unfold txMickey
  rw [hra, if_neg Bool.false_ne_true]
  have hkey : (Vector.replicate 16 1 : Skey) ≠ Vector.replicate 16 0 := by decide
  exact if_neg hkey

theorem tkipStation_linked (fragLen : ℕ) (a : PktAttrib) (h : a.psta = some 0) :
    xmitSta (tkipStation fragLen) a = some 0 := by
  have hlinked : (_FW_LINKED &&& _FW_LINKED != 0) = true := by decide
  rw [xmitSta, h]
  exact if_pos hlinked

/-- What the attributes of a packet for the access point are. -/
structure TkipAttrib (a : PktAttrib) : Prop where
  encrypt : a.encrypt = TKIP
  unicast : isMulticastEtherAddr a.ra = false
  sizes : a.hdrlen = 24 ∧ a.ivLen = 8 ∧ icvRoom a = 4
  psta : a.psta = some 0

theorem tkipStation_sends (fragLen : ℕ) {pkt : EthFrame} {a : PktAttrib}
    (ha : updateAttrib (tkipStation fragLen) 0 pkt {} = some a) (h : TkipAttrib a) : ∃ o,
    rtwXmitframeCoalesce (tkipStation fragLen) pkt ⟨a, fun _ => 0⟩ = some o ∧ o.ret = true := by
  have hof := updateAttrib_spec _ _ _ _ _ ha
  have hmode : (WIFI_STATION_STATE &&& WIFI_STATION_STATE != 0) = true := by decide
  refine coalesce_succeeds hof 0 _ (tkipStation_linked fragLen a h.psta) (if_pos hmode) fun _ hnone => ?_
  exact Option.some_ne_none _ ((tkipStation_mickey fragLen a h.unicast).symm.trans hnone)

theorem coalesce_mic_iff_station : ∃ (a : PktAttrib) (o : CoalesceOutcome) (f g : XmitFrame) (key : Skey),
    updateAttrib (tkipStation 2346) 0 (zeroEth 10 (by decide)) {} = some a ∧
    coalesceFrame (tkipStation 2346) (zeroEth 10 (by decide)) ⟨a, fun _ => 0⟩ = some (o.padapter, f, o.mpdus) ∧
    (MicAgrees o.padapter f g o.mpdus
      (rtwPutSnap (zeroEth 10 (by decide)).etherType ++ (zeroEth 10 (by decide)).payload) key ↔
      Fits 2346 a (zeroEth 10 (by decide)).payload.length ∧ SamePriority (tkipStation 2346) a) := by
  obtain ⟨a, ha, hattrib⟩ : ∃ a, updateAttrib (tkipStation 2346) 0 (zeroEth 10 (by decide)) {} = some a ∧
      TkipAttrib a := ⟨_, rfl, rfl, rfl, ⟨rfl, rfl, rfl⟩, rfl⟩
  obtain ⟨o, hrun, hret⟩ := tkipStation_sends 2346 ha hattrib
  have henc := hattrib.encrypt
  obtain ⟨f, g, key, hframe, -, -, -, hiff⟩ := coalesce_mic_iff 0 ha henc hrun hret
  exact ⟨a, o, f, g, key, ha, hframe, hiff⟩

/-- Sender and receiver do not always agree. -/
theorem coalesce_mic_differs : ¬ ∀ (padapter : RtwAdapter) (junk : UInt8) (pkt : EthFrame) (pattrib a : PktAttrib)
    (m : Mem) (o : CoalesceOutcome), updateAttrib padapter junk pkt pattrib = some a → a.encrypt = TKIP →
    isMulticastEtherAddr a.ra = false → rtwXmitframeCoalesce padapter pkt ⟨a, m⟩ = some o → o.ret = true →
    ∃ f g key, coalesceFrame padapter pkt ⟨a, m⟩ = some (o.padapter, f, o.mpdus) ∧
      xmitframeAddmic o.padapter f = some g ∧
      MicAgrees o.padapter f g o.mpdus (rtwPutSnap pkt.etherType ++ pkt.payload) key := by
  intro h
  obtain ⟨a, ha, hattrib⟩ : ∃ a, updateAttrib (tkipStation 256) 0 (zeroEth 400 (by decide)) {} = some a ∧
      TkipAttrib a := ⟨_, rfl, rfl, rfl, ⟨rfl, rfl, rfl⟩, rfl⟩
  obtain ⟨o, hrun, hret⟩ := tkipStation_sends 256 ha hattrib
  obtain ⟨henc, hra, ⟨hhdr, hiv, hicv⟩, -⟩ := hattrib
  have hof := updateAttrib_spec _ _ _ _ _ ha
  obtain ⟨psta, d, s, x, hsent⟩ := coalesce_sent hof hrun hret
  obtain ⟨f, g, key, hframe, -, hagree⟩ := h _ _ _ _ _ _ _ ha henc hra hrun hret
  rw [hsent.coalesceFrame hof, hsent.outcome] at hframe
  obtain ⟨-, hf⟩ := Prod.mk.injEq _ _ _ _ ▸ Option.some.inj hframe
  obtain ⟨rfl, -⟩ := Prod.mk.injEq _ _ _ _ ▸ hf
  rw [hsent.outcome] at hagree
  have hfit := (hsent.place_iff hof henc key).mp hagree.place
  have hlen : (zeroEth 400 (by decide)).payload.length = 400 := List.length_replicate
  have hfrag : (tkipStation 256).fragLen = 256 := rfl
  rw [hlen, hfrag] at hfit
  obtain hbmc | hroom | hshort := hfit
  · exact Bool.false_ne_true (hra.symm.trans hbmc)
  · unfold fragRoom at hroom
    rw [hhdr, hiv, hicv] at hroom
    omega
  · unfold fragRoom at hshort
    rw [hhdr, hiv, hicv] at hshort
    omega

end Rtl8723au
