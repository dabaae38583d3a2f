import Rtl8723au.Xmit.Coalesce

/-! The loop of `rtw_xmitframe_coalesce`: what one pass does, that the loop ends, and how it lays the
MPDUs out. -/
namespace Rtl8723au
open Mem Wifi Security
set_option autoImplicit false

/-! ## The rule for the loop -/

theorem coalesceLoop_invariant (psta : StaId) (Inv : Frag → Prop) (n : ℕ) (s s' : Frag)
    (h : coalesceLoop psta n s = some s') (h0 : Inv s)
    (hstep : ∀ t, Inv t → ¬ fragDone (fragPass psta t) → Inv (fragNext (fragPass psta t))) :
    ∃ t, Inv t ∧ fragDone (fragPass psta t) ∧ s' = fragLast (fragPass psta t) (fragMpdu (fragIv psta t)) := by
  induction n generalizing s with
  | zero => cases h
  | succ n ih =>
    rw [coalesceLoop] at h
    by_cases hdone : fragDone (fragPass psta s)
    · rw [if_pos hdone] at h
      cases h
      exact ⟨s, h0, hdone, rfl⟩
    · rw [if_neg hdone] at h
      exact ih (fragNext (fragPass psta s)) h (hstep s h0 hdone)

/-! ## One pass -/

section Pass
variable (psta : StaId) (s : Frag)

@[simp] theorem fragIv_mem : (fragIv psta s).mem = s.mem := by
  unfold fragIv
  split <;> rfl
@[simp] theorem fragIv_pktfile : (fragIv psta s).pktfile = s.pktfile := by
  unfold fragIv
  split <;> rfl
@[simp] theorem fragIv_frgInx : (fragIv psta s).frgInx = s.frgInx := by
  unfold fragIv
  split <;> rfl
@[simp] theorem fragIv_memStart : (fragIv psta s).memStart = s.memStart := by
  unfold fragIv
  split <;> rfl
@[simp] theorem fragIv_mpdus : (fragIv psta s).mpdus = s.mpdus := by
  unfold fragIv
  split <;> rfl

/-- The attributes of the frame are those it came with, but for the IV. -/
structure FragOf (a : PktAttrib) (fragLen : ℕ) (s : Frag) : Prop where
  attrib : s.pattrib = { a with iv := s.pattrib.iv }
  fragLen : s.padapter.fragLen = fragLen

variable {psta s} {a : PktAttrib} {fragLen : ℕ}

theorem fragIv_of (psta : StaId) (h : FragOf a fragLen s) : FragOf a fragLen (fragIv psta s) := by
  unfold fragIv
  split
  · refine ⟨?_, h.fragLen⟩
    dsimp only
    rw [h.attrib]
  · exact h

theorem fragNext_pass_of (h : FragOf a fragLen s) : FragOf a fragLen (fragNext (fragPass psta s)) :=
  ⟨(fragIv_of _ h).attrib, (fragIv_of _ h).fragLen⟩

theorem fragCursor_eq : fragCursor s = ⟨putBytes (setMFrag s.mem s.memStart) (s.memStart + s.pattrib.hdrlen)
    (fragMpdu s).body, s.memStart + s.pattrib.hdrlen + (fragMpdu s).body.length⟩ := by
  rw [fragCursor, Cursor.put_put, Cursor.put_put, Cursor.put_put, ← List.append_assoc, ← List.append_assoc]
  rfl

end Pass

/-! ## Sizes -/

def icvRoom (a : PktAttrib) : ℕ := if a.bswenc then a.icvLen else 0

/-- What is left of an MPDU for the LLC header and the payload. -/
def fragRoom (fragLen : ℕ) (a : PktAttrib) : ℤ := (fragLen : ℤ) - 4 - a.hdrlen - a.ivLen - icvRoom a

/-- The packet goes out as one MPDU. A negative room is a read without a limit. -/
def Fits (fragLen : ℕ) (a : PktAttrib) (len : ℕ) : Prop :=
  isMulticastEtherAddr a.ra = true ∨ fragRoom fragLen a < 8 ∨ len + 8 ≤ fragRoom fragLen a

instance (fragLen : ℕ) (a : PktAttrib) (len : ℕ) : Decidable (Fits fragLen a len) :=
  inferInstanceAs (Decidable (_ ∨ _))

/-- The IV and the ICV are inside their arrays. -/
structure InArrays (a : PktAttrib) : Prop where
  iv : a.ivLen ≤ 18
  icv : a.icvLen ≤ 16

theorem AttribOf.inArrays {padapter : RtwAdapter} {pkt : EthFrame} {pattrib a : PktAttrib}
    (h : AttribOf padapter pkt pattrib a) : InArrays a := by
  have hlens := h.lens
  unfold ivIcvLen at hlens
  split at hlens <;> rw [Prod.mk.injEq] at hlens <;> exact ⟨by omega, by omega⟩

section Sizes
variable {s : Frag} {a : PktAttrib} {fragLen : ℕ}

theorem rtwPutSnap_length (hProto : ℕ) : (rtwPutSnap hProto).length = 8 := rfl

theorem fragLlc_length : (fragLlc s).length = if s.frgInx = 0 then 8 else 0 := by
  unfold fragLlc
  split <;> rfl

theorem fragIcv_length (h : FragOf a fragLen s) (ha : InArrays a) : (fragIcv s).length = icvRoom a := by
  have hicv := ha.icv
  unfold fragIcv icvRoom
  rw [h.attrib]
  dsimp only
  by_cases hsw : a.bswenc = true
  · rw [if_pos hsw]
    split
    · rw [List.length_take, Vector.length_toList]
      omega
    · rename_i hzero
      have : ¬ a.icvLen > 0 := fun hpos => hzero ⟨hpos, hsw⟩
      rw [List.length_nil]
      omega
  · rw [if_neg hsw, if_neg fun hboth => hsw hboth.2, List.length_nil]

theorem fragMpduLen_eq (h : FragOf a fragLen s) (ha : InArrays a) :
    fragMpduLen s = fragRoom fragLen a - (fragLlc s).length := by
  unfold fragMpduLen fragRoom
  rw [fragIcv_length h ha, h.fragLen, h.attrib]
  ring

theorem fragMpdu_iv_length (h : FragOf a fragLen s) (ha : InArrays a) : (fragMpdu s).iv.length = a.ivLen := by
  have hiv := ha.iv
  unfold fragMpdu
  rw [h.attrib]
  dsimp only
  rw [List.length_take, Vector.length_toList]
  omega

theorem fragMpdu_body_length (h : FragOf a fragLen s) (ha : InArrays a) : (fragMpdu s).body.length =
    a.ivLen + (fragLlc s).length + (fragRead s).1.length + icvRoom a := by
  have hicv : (fragMpdu s).icv.length = icvRoom a := fragIcv_length h ha
  rw [Mpdu.body, List.length_append, List.length_append, List.length_append, fragMpdu_iv_length h ha, hicv]
  rfl

theorem fragRead_all (h : FragOf a fragLen s) (ha : InArrays a)
    (hall : isMulticastEtherAddr a.ra = true ∧ s.pktfile.length ≤ a.pktlen ∨
      isMulticastEtherAddr a.ra = false ∧
        (fragRoom fragLen a < (fragLlc s).length ∨
          s.pktfile.length + (fragLlc s).length ≤ fragRoom fragLen a)) :
    fragRead s = (s.pktfile, []) := by
  have hra : s.pattrib.ra = a.ra := by rw [h.attrib]
  have hlen : s.pattrib.pktlen = a.pktlen := by rw [h.attrib]
  unfold fragRead
  rw [hra, hlen, fragMpduLen_eq h ha]
  obtain ⟨hm, hle⟩ | ⟨hu, hle⟩ := hall
  · rw [if_pos hm]
    exact rtwPktfileRead_all _ _ (.inr (by exact_mod_cast hle))
  · rw [if_neg (by rw [hu]; exact Bool.false_ne_true)]
    exact rtwPktfileRead_all _ _ (by omega)

theorem fragRead_part (h : FragOf a fragLen s) (ha : InArrays a) (hu : isMulticastEtherAddr a.ra = false)
    (n : ℕ) (hroom : fragRoom fragLen a = n + (fragLlc s).length) (hn : n < s.pktfile.length) :
    fragRead s = (s.pktfile.take n, s.pktfile.drop n) := by
  have hra : s.pattrib.ra = a.ra := by rw [h.attrib]
  unfold fragRead
  rw [hra, if_neg (by rw [hu]; exact Bool.false_ne_true), fragMpduLen_eq h ha]
  have hlen : fragRoom fragLen a - ((fragLlc s).length : ℤ) = n := by omega
  rw [hlen]
  exact rtwPktfileRead_part _ n hn.le

end Sizes

/-! ## The loop ends -/

section Ends
variable {psta : StaId} {s : Frag} {a : PktAttrib} {fragLen : ℕ}

theorem fragPass_pktfile : (fragPass psta s).pktfile = (fragRead (fragIv psta s)).2 := rfl

theorem fragPass_attrib_ra (h : FragOf a fragLen s) : (fragPass psta s).pattrib.ra = a.ra := by
  show (fragIv psta s).pattrib.ra = a.ra
  rw [(fragIv_of _ h).attrib]

theorem fragDone_iff (h : FragOf a fragLen s) : fragDone (fragPass psta s) ↔
    isMulticastEtherAddr a.ra = true ∨ (fragRead (fragIv psta s)).2 = [] := by
  unfold fragDone
  rw [fragPass_attrib_ra h, fragPass_pktfile]

theorem fragIv_llc : fragLlc (fragIv psta s) = fragLlc s := by
  unfold fragLlc fragIv
  split <;> rfl

theorem fragRead_rest (h : FragOf a fragLen s) (ha : InArrays a) (hu : isMulticastEtherAddr a.ra = false)
    (hall : fragRoom fragLen a < (fragLlc s).length ∨
      (s.pktfile.length : ℤ) + (fragLlc s).length ≤ fragRoom fragLen a) :
    fragRead (fragIv psta s) = (s.pktfile, []) := by
  have hread := fragRead_all (fragIv_of psta h) ha (.inr ⟨hu, by rwa [fragIv_llc, fragIv_pktfile]⟩)
  rwa [fragIv_pktfile] at hread

theorem not_fragDone (h : FragOf a fragLen s) (ha : InArrays a) (hnot : ¬ fragDone (fragPass psta s)) :
    isMulticastEtherAddr a.ra = false ∧ ∃ n : ℕ, fragRoom fragLen a = n + (fragLlc s).length ∧
      n < s.pktfile.length ∧ fragRead (fragIv psta s) = (s.pktfile.take n, s.pktfile.drop n) := by
  rw [fragDone_iff h, not_or, Bool.not_eq_true] at hnot
  obtain ⟨hu, hrest⟩ := hnot
  have hroom : ¬ (fragRoom fragLen a < (fragLlc s).length ∨
      (s.pktfile.length : ℤ) + (fragLlc s).length ≤ fragRoom fragLen a) := by
    intro hall
    apply hrest
    rw [fragRead_rest h ha hu hall]
  obtain ⟨n, hn⟩ : ∃ n : ℕ, fragRoom fragLen a = n + (fragLlc s).length :=
    ⟨(fragRoom fragLen a - (fragLlc s).length).toNat, by omega⟩
  have hpart := fragRead_part (fragIv_of psta h) ha hu n (by rw [fragIv_llc]; exact hn)
    (by rw [fragIv_pktfile]; omega)
  rw [fragIv_pktfile] at hpart
  exact ⟨hu, n, hn, by omega, hpart⟩

theorem fragNext_frgInx : (fragNext (fragPass psta s)).frgInx = s.frgInx + 1 := by
  show (fragIv psta s).frgInx + 1 = s.frgInx + 1
  rw [fragIv_frgInx]

theorem fragNext_pktfile : (fragNext (fragPass psta s)).pktfile = (fragRead (fragIv psta s)).2 := rfl

/-- **The loop ends**: only the first pass may read nothing. -/
theorem coalesceLoop_ends (psta : StaId) (n : ℕ) (h : FragOf a fragLen s) (ha : InArrays a)
    (hroom : s.frgInx = 0 ∨ 8 ≤ fragRoom fragLen a)
    (hn : s.pktfile.length + (if s.frgInx = 0 then 1 else 0) < n) : ∃ s', coalesceLoop psta n s = some s' := by
  induction n generalizing s with
  | zero => omega
  | succ n ih =>
    rw [coalesceLoop]
    by_cases hdone : fragDone (fragPass psta s)
    · rw [if_pos hdone]
      exact ⟨_, rfl⟩
    · rw [if_neg hdone]
      obtain ⟨-, r, hr, hlt, hread⟩ := not_fragDone h ha hdone
      rw [fragLlc_length] at hr
      have hlen : (fragNext (fragPass psta s)).pktfile.length = s.pktfile.length - r := by
        rw [fragNext_pktfile, hread, List.length_drop]
      apply ih (fragNext_pass_of h)
      · right
        split at hr <;> omega
      · rw [hlen, fragNext_frgInx, if_neg (Nat.succ_ne_zero _)]
        split at hr <;> rename_i hz
        · rw [if_pos hz] at hn
          omega
        · rw [if_neg hz] at hn
          omega

end Ends

/-! ## Where the MPDUs are -/

/-- Where an MPDU starts when those before it are full. -/
def layoutStart (fragLen : ℕ) : ℕ → ℤ
  | 0 => TXDESC_OFFSET
  | j + 1 => rnd4 (layoutStart fragLen j + (fragLen - 4)) + TXDESC_OFFSET

def Mpdu.text (u : Mpdu) : List UInt8 := u.llc ++ u.data

/-- An MPDU with the IV, the ICV and the place its index gives it. -/
structure Placed (a : PktAttrib) (fragLen i : ℕ) (u : Mpdu) : Prop where
  start : u.start = layoutStart fragLen i
  iv : u.iv.length = a.ivLen
  icv : u.icv.length = icvRoom a

/-- The MPDUs a packet is cut into: the LLC header and the payload, every MPDU but the last one full. -/
structure Cut (a : PktAttrib) (fragLen : ℕ) (payload : List UInt8) (mpdus : List Mpdu) : Prop where
  nonempty : mpdus ≠ []
  one : mpdus.length = 1 ↔ Fits fragLen a payload.length
  placed : ∀ (i : ℕ) (u : Mpdu), mpdus[i]? = some u → Placed a fragLen i u
  full : ∀ (i : ℕ) (u : Mpdu), mpdus[i]? = some u → i + 1 < mpdus.length → (u.text.length : ℤ) = fragRoom fragLen a
  last : 1 < mpdus.length → ∀ u : Mpdu, mpdus[mpdus.length - 1]? = some u →
    0 < u.text.length ∧ (u.text.length : ℤ) ≤ fragRoom fragLen a
  text : mpdus.flatMap Mpdu.text = rtwPutSnap a.etherType ++ payload

/-- The loop between two passes, for a packet that does not fit. -/
structure Laid (a : PktAttrib) (fragLen : ℕ) (payload : List UInt8) (s : Frag) : Prop where
  of : FragOf a fragLen s
  count : s.mpdus.length = s.frgInx
  start : s.memStart = layoutStart fragLen s.frgInx
  placed : ∀ (i : ℕ) (u : Mpdu), s.mpdus[i]? = some u → Placed a fragLen i u
  full : ∀ (i : ℕ) (u : Mpdu), s.mpdus[i]? = some u → (u.text.length : ℤ) = fragRoom fragLen a
  text : s.mpdus.flatMap Mpdu.text ++ (fragLlc s ++ s.pktfile) = rtwPutSnap a.etherType ++ payload
  more : s.pktfile ≠ []
  first : s.frgInx = 0 → s.pktfile = payload

section Cut
variable {psta : StaId} {s : Frag} {a : PktAttrib} {fragLen : ℕ} {payload : List UInt8}

theorem fragMpdu_text (t : Frag) : (fragMpdu t).text = fragLlc t ++ (fragRead t).1 := rfl

theorem fragMpdu_placed (h : FragOf a fragLen s) (ha : InArrays a)
    (hstart : s.memStart = layoutStart fragLen s.frgInx) :
    Placed a fragLen s.frgInx (fragMpdu (fragIv psta s)) := by
  have hof := fragIv_of psta h
  refine ⟨?_, fragMpdu_iv_length hof ha, fragIcv_length hof ha⟩
  show (fragIv psta s).memStart = _
  rw [fragIv_memStart, hstart]

theorem fragPass_mpdus : (fragPass psta s).mpdus = s.mpdus ++ [fragMpdu (fragIv psta s)] := by
  show (fragIv psta s).mpdus ++ _ = _
  rw [fragIv_mpdus]

theorem getElem?_snoc (l : List Mpdu) (v u : Mpdu) (i : ℕ) (h : (l ++ [v])[i]? = some u) :
    l[i]? = some u ∨ i = l.length ∧ u = v := by
  rw [List.getElem?_append] at h
  split at h
  · exact .inl h
  · right
    rw [List.getElem?_singleton] at h
    split at h
    · cases h
      exact ⟨by omega, rfl⟩
    · cases h

theorem fragPass_pframe (h : FragOf a fragLen s) (ha : InArrays a) : (fragPass psta s).pframe =
    s.memStart + a.hdrlen + a.ivLen + (fragMpdu (fragIv psta s)).text.length + icvRoom a := by
  have hof := fragIv_of psta h
  show (fragCursor (fragIv psta s)).pframe = _
  rw [fragCursor_eq]
  dsimp only
  rw [fragMpdu_body_length hof ha, fragIv_memStart, hof.attrib, fragMpdu_text, List.length_append]
  push_cast
  ring

theorem laid_step (ha : InArrays a) (h : Laid a fragLen payload s) (hnot : ¬ fragDone (fragPass psta s)) :
    Laid a fragLen payload (fragNext (fragPass psta s)) := by
  obtain ⟨-, n, hn, hlt, hread⟩ := not_fragDone h.of ha hnot
  have htext : (fragMpdu (fragIv psta s)).text = fragLlc s ++ s.pktfile.take n := by
    rw [fragMpdu_text, fragIv_llc, hread]
  have hfull : ((fragMpdu (fragIv psta s)).text.length : ℤ) = fragRoom fragLen a := by
    rw [htext, List.length_append, List.length_take, min_eq_left hlt.le, hn]
    push_cast
    ring
  have hmpdus : (fragNext (fragPass psta s)).mpdus = s.mpdus ++ [fragMpdu (fragIv psta s)] := fragPass_mpdus
  have hllc : fragLlc (fragNext (fragPass psta s)) = [] := by
    rw [fragLlc, if_neg (by rw [fragNext_frgInx]; exact Nat.succ_ne_zero _)]
  constructor
  · exact fragNext_pass_of h.of
  · rw [hmpdus, List.length_append, h.count, fragNext_frgInx, List.length_singleton]
  · rw [fragNext_frgInx]
    show rnd4 (fragPass psta s).pframe + TXDESC_OFFSET = rnd4 _ + TXDESC_OFFSET
    have hend : (fragPass psta s).pframe = layoutStart fragLen s.frgInx + (fragLen - 4) := by
      rw [fragPass_pframe h.of ha, hfull, h.start, fragRoom]
      ring
    rw [hend]
  · intro i u hu
    rw [hmpdus] at hu
    obtain hu | ⟨rfl, rfl⟩ := getElem?_snoc _ _ _ _ hu
    · exact h.placed i u hu
    · rw [h.count]
      exact fragMpdu_placed h.of ha h.start
  · intro i u hu
    rw [hmpdus] at hu
    obtain hu | ⟨rfl, rfl⟩ := getElem?_snoc _ _ _ _ hu
    · exact h.full i u hu
    · exact hfull
  · rw [hmpdus, hllc, List.flatMap_append, List.flatMap_singleton, htext, fragNext_pktfile, hread,
      List.nil_append, List.append_assoc, List.append_assoc, List.take_append_drop]
    exact h.text
  · rw [fragNext_pktfile, hread]
    intro hnil
    have := congrArg List.length hnil
    rw [List.length_drop, List.length_nil] at this
    omega
  · intro hz
    rw [fragNext_frgInx] at hz
    exact absurd hz (Nat.succ_ne_zero _)

/-- The last pass: everything is read, and there was a pass before it. -/
theorem laid_last (ha : InArrays a) (hfit : ¬ Fits fragLen a payload.length) (h : Laid a fragLen payload s)
    (hdone : fragDone (fragPass psta s)) : s.frgInx ≠ 0 ∧
      (s.pktfile.length : ℤ) ≤ fragRoom fragLen a ∧ fragRead (fragIv psta s) = (s.pktfile, []) := by
  unfold Fits at hfit
  rw [not_or, not_or, Bool.not_eq_true] at hfit
  obtain ⟨hu, hroom, hlong⟩ := hfit
  have hrest : (fragRead (fragIv psta s)).2 = [] := by
    obtain hm | hrest := (fragDone_iff h.of).mp hdone
    · rw [hu] at hm
      exact absurd hm Bool.false_ne_true
    · exact hrest
  have hfits : (s.pktfile.length : ℤ) + (fragLlc s).length ≤ fragRoom fragLen a := by
    by_contra hlt
    obtain ⟨n, hn⟩ : ∃ n : ℕ, fragRoom fragLen a = n + (fragLlc s).length := by
      refine ⟨(fragRoom fragLen a - (fragLlc s).length).toNat, ?_⟩
      have hllc : (fragLlc s).length ≤ 8 := by
        rw [fragLlc_length]
        split <;> omega
      omega
    have hpart := fragRead_part (fragIv_of psta h.of) ha hu n (by rw [fragIv_llc]; exact hn)
      (by rw [fragIv_pktfile]; omega)
    rw [hpart, fragIv_pktfile] at hrest
    have hzero := congrArg List.length hrest
    rw [List.length_drop, List.length_nil] at hzero
    omega
  refine ⟨?_, by omega, fragRead_rest h.of ha hu (.inr hfits)⟩
  intro hz
  rw [h.first hz, fragLlc_length, if_pos hz] at hfits
  omega

/-- `last_txcmdsz` counts the last MPDU, header to ICV. -/
theorem lastTxcmdszOf_eq (nrFrags : ℕ) (u : Mpdu) (hllc : nrFrags ≠ 1 → u.llc = []) :
    lastTxcmdszOf a nrFrags u = a.hdrlen + a.ivLen + u.text.length + icvRoom a := by
  have htext : u.text.length = u.llc.length + u.data.length := List.length_append
  unfold lastTxcmdszOf icvRoom
  rw [htext]
  split
  · omega
  · rename_i hne
    rw [hllc hne, List.length_nil]
    omega

end Cut

/-! ## The loop as a whole -/

/-- The frame the loop leaves. -/
structure LoopEnd (a : PktAttrib) (fragLen : ℕ) (payload : List UInt8) (s : Frag) : Prop where
  cut : Cut a fragLen payload s.mpdus
  nrFrags : s.pattrib.nrFrags = s.mpdus.length % 256
  lastTxcmdsz : ∀ u, s.mpdus[s.mpdus.length - 1]? = some u →
    s.pattrib.lastTxcmdsz = a.hdrlen + a.ivLen + u.text.length + icvRoom a
  attrib : s.pattrib = { a with
    iv := s.pattrib.iv, nrFrags := s.pattrib.nrFrags, lastTxcmdsz := s.pattrib.lastTxcmdsz }
  fragLen : s.padapter.fragLen = fragLen

section Whole
variable (psta : StaId) (padapter : RtwAdapter) (pkt : EthFrame) (a : PktAttrib) (m : Mem)

theorem fragStart_of : FragOf a padapter.fragLen (fragStart padapter pkt a m) := ⟨rfl, rfl⟩

theorem attrib_counts (q : PktAttrib) (nrFrags lastTxcmdsz : ℕ) (h : q = { a with iv := q.iv }) :
    { q with nrFrags := nrFrags, lastTxcmdsz := lastTxcmdsz } =
      { a with iv := q.iv, nrFrags := nrFrags, lastTxcmdsz := lastTxcmdsz } := by
  rw [h]

theorem fragLast_end {fragLen : ℕ} {payload : List UInt8} {t : Frag} (hof : FragOf a fragLen t)
    (hcount : t.mpdus.length = t.frgInx)
    (hcut : Cut a fragLen payload (t.mpdus ++ [fragMpdu (fragIv psta t)])) :
    LoopEnd a fragLen payload (fragLast (fragPass psta t) (fragMpdu (fragIv psta t))) := by
  have hmpdus : (fragLast (fragPass psta t) (fragMpdu (fragIv psta t))).mpdus
      = t.mpdus ++ [fragMpdu (fragIv psta t)] := fragPass_mpdus
  have hinx : (fragPass psta t).frgInx = t.frgInx + 1 := fragNext_frgInx
  have hof' := fragIv_of psta hof
  constructor
  · rw [hmpdus]
    exact hcut
  · rw [hmpdus, List.length_append, hcount, List.length_singleton]
    show (fragPass psta t).frgInx % 256 = _
    rw [hinx]
  · intro u hu
    rw [hmpdus, List.length_append, List.length_singleton, Nat.add_sub_cancel, List.getElem?_concat_length] at hu
    cases hu
    show lastTxcmdszOf (fragIv psta t).pattrib ((fragPass psta t).frgInx % 256) _ = _
    rw [hof'.attrib, hinx]
    refine lastTxcmdszOf_eq _ _ fun hne => ?_
    show fragLlc (fragIv psta t) = []
    rw [fragIv_llc, fragLlc, if_neg]
    intro hz
    apply hne
    rw [hz]
  · exact attrib_counts _ _ _ _ hof'.attrib
  · exact hof'.fragLen

theorem fragStart_pktfile (hhdr : a.pktHdrlen = 14) : (fragStart padapter pkt a m).pktfile = pkt.payload := by
  show (rtwPktfileRead pkt.data a.pktHdrlen).2 = _
  rw [hhdr]
  exact rtwPktfileRead_payload pkt

theorem coalesceLoop_one (ha : InArrays a) (hhdr : a.pktHdrlen = 14) (hlen : a.pktlen = pkt.payload.length)
    (hfit : Fits padapter.fragLen a pkt.payload.length) (n : ℕ) :
    fragRead (fragIv psta (fragStart padapter pkt a m)) = (pkt.payload, []) ∧
    coalesceLoop psta (n + 1) (fragStart padapter pkt a m) = some (fragLast
      (fragPass psta (fragStart padapter pkt a m)) (fragMpdu (fragIv psta (fragStart padapter pkt a m)))) := by
  have hof := fragStart_of padapter pkt a m
  have hfile := fragStart_pktfile padapter pkt a m hhdr
  have hread : fragRead (fragIv psta (fragStart padapter pkt a m)) = (pkt.payload, []) := by
    have hall := fragRead_all (fragIv_of psta hof) ha
    rw [fragIv_pktfile, fragIv_llc, hfile] at hall
    apply hall
    by_cases hm : isMulticastEtherAddr a.ra = true
    · exact .inl ⟨hm, hlen.ge⟩
    · refine .inr ⟨Bool.not_eq_true _ ▸ hm, ?_⟩
      show fragRoom padapter.fragLen a < (8 : ℕ) ∨ (pkt.payload.length : ℤ) + (8 : ℕ) ≤ _
      obtain hm' | hneg | hle := hfit
      · exact absurd hm' hm
      · exact .inl hneg
      · exact .inr hle
  have hdone : fragDone (fragPass psta (fragStart padapter pkt a m)) := by
    rw [fragDone_iff hof, hread]
    exact .inr rfl
  exact ⟨hread, by rw [coalesceLoop, if_pos hdone]⟩

theorem coalesceLoop_fits (ha : InArrays a) (hhdr : a.pktHdrlen = 14) (hlen : a.pktlen = pkt.payload.length)
    (hfit : Fits padapter.fragLen a pkt.payload.length) (n : ℕ) :
    ∃ s, coalesceLoop psta (n + 1) (fragStart padapter pkt a m) = some s ∧
      LoopEnd a padapter.fragLen pkt.payload s := by
  have hof := fragStart_of padapter pkt a m
  obtain ⟨hread, hloop⟩ := coalesceLoop_one psta padapter pkt a m ha hhdr hlen hfit n
  refine ⟨_, hloop, fragLast_end psta a hof rfl ?_⟩
  constructor
  · exact List.concat_ne_nil _ _
  · exact iff_of_true rfl hfit
  · intro i u hu
    obtain hu | ⟨rfl, rfl⟩ := getElem?_snoc _ _ _ _ hu
    · cases hu
    · exact fragMpdu_placed hof ha rfl
  · intro i u _ hi
    exact absurd hi (by show ¬ i + 1 < 1; omega)
  · intro hlt
    exact absurd hlt (lt_irrefl 1)
  · show (fragMpdu (fragIv psta (fragStart padapter pkt a m))).text ++ [] = _
    rw [fragMpdu_text, fragIv_llc, hread, List.append_nil]
    rfl

theorem laid_start (hhdr : a.pktHdrlen = 14) (hfit : ¬ Fits padapter.fragLen a pkt.payload.length) :
    Laid a padapter.fragLen pkt.payload (fragStart padapter pkt a m) := by
  have hfile := fragStart_pktfile padapter pkt a m hhdr
  refine ⟨fragStart_of padapter pkt a m, rfl, rfl, (fun i u hu => by cases hu), (fun i u hu => by cases hu), ?_, ?_,
    fun _ => hfile⟩
  · rw [hfile]
    rfl
  · rw [hfile]
    intro hnil
    apply hfit
    rw [hnil]
    right
    rw [List.length_nil]
    omega

theorem coalesceLoop_cuts (ha : InArrays a) (hhdr : a.pktHdrlen = 14)
    (hfit : ¬ Fits padapter.fragLen a pkt.payload.length) (n : ℕ) (hn : pkt.payload.length + 1 < n) :
    ∃ s, coalesceLoop psta n (fragStart padapter pkt a m) = some s ∧
      LoopEnd a padapter.fragLen pkt.payload s := by
  have hof := fragStart_of padapter pkt a m
  have hfile := fragStart_pktfile padapter pkt a m hhdr
  obtain ⟨s, hs⟩ := coalesceLoop_ends psta n hof ha (.inl rfl) (by rw [hfile]; exact hn)
  refine ⟨s, hs, ?_⟩
  have hstart := laid_start padapter pkt a m hhdr hfit
  obtain ⟨t, ht, hdone, rfl⟩ := coalesceLoop_invariant psta _ n _ s hs hstart fun t ht => laid_step ha ht
  obtain ⟨hne, hle, hread⟩ := laid_last ha hfit ht hdone
  have htext : (fragMpdu (fragIv psta t)).text = t.pktfile := by
    rw [fragMpdu_text, fragIv_llc, hread, fragLlc, if_neg hne, List.nil_append]
  refine fragLast_end psta a ht.of ht.count ?_
  have hcount := ht.count
  constructor
  · exact List.concat_ne_nil _ _
  · rw [List.length_append, List.length_singleton]
    exact iff_of_false (by omega) hfit
  · intro i u hu
    obtain hu | ⟨rfl, rfl⟩ := getElem?_snoc _ _ _ _ hu
    · exact ht.placed i u hu
    · rw [ht.count]
      exact fragMpdu_placed ht.of ha ht.start
  · intro i u hu hi
    rw [List.length_append, List.length_singleton] at hi
    obtain hu | ⟨rfl, rfl⟩ := getElem?_snoc _ _ _ _ hu
    · exact ht.full i u hu
    · omega
  · intro _ u hu
    rw [List.length_append, List.length_singleton, Nat.add_sub_cancel, List.getElem?_concat_length] at hu
    cases hu
    rw [htext]
    exact ⟨List.length_pos_of_ne_nil ht.more, hle⟩
  · rw [List.flatMap_append, List.flatMap_singleton, htext]
    have hall := ht.text
    rw [fragLlc, if_neg hne, List.nil_append] at hall
    exact hall

end Whole

/-! ## The function as a whole -/

/-- The frame and the adapter once the header is made. -/
def sentAttrib (padapter : RtwAdapter) (a : PktAttrib) (psta : StaId) : PktAttrib :=
  { a with seqnum := nextSeqnum (padapter.staInfo psta) a.priority }

def sentAdapter (padapter : RtwAdapter) (a : PktAttrib) (psta : StaId) : RtwAdapter :=
  padapter.setInfo psta (countSeqnum (padapter.staInfo psta) a.priority)

def sentStart (padapter : RtwAdapter) (pkt : EthFrame) (a : PktAttrib) (m : Mem) (psta : StaId)
    (d : HdrDir) : Frag :=
  fragStart (sentAdapter padapter a psta) pkt (sentAttrib padapter a psta)
    (putWlanhdr m TXDESC_OFFSET a d (nextSeqnum (padapter.staInfo psta) a.priority))

/-- The stations of `padapter` with another packet number for one of them. -/
theorem setTxpn_setTxpn (padapter : RtwAdapter) (psta : StaId) (pn pn' : UInt64) :
    (padapter.setTxpn psta pn).setTxpn psta pn' = padapter.setTxpn psta pn' := by
  unfold RtwAdapter.setTxpn RtwAdapter.setInfo StaPriv.setInfo RtwAdapter.staInfo
  simp

theorem setTxpn_self (padapter : RtwAdapter) (psta : StaId) :
    padapter.setTxpn psta (padapter.staInfo psta).dot11txpn = padapter := by
  unfold RtwAdapter.setTxpn RtwAdapter.setInfo StaPriv.setInfo RtwAdapter.staInfo
  rw [Function.update_eq_self_iff.mpr rfl]

theorem fragIv_adapter (psta : StaId) (s : Frag) :
    ∃ pn, (fragIv psta s).padapter = s.padapter.setTxpn psta pn := by
  unfold fragIv
  split
  · exact ⟨_, rfl⟩
  · exact ⟨_, (setTxpn_self s.padapter psta).symm⟩

/-- A successful call, taken apart. -/
structure Sent (padapter : RtwAdapter) (pkt : EthFrame) (a : PktAttrib) (m : Mem) (psta : StaId)
    (d : HdrDir) (s : Frag) (f : XmitFrame) (o : CoalesceOutcome) : Prop where
  sta : xmitSta padapter a = some psta
  dir : hdrDir padapter a (padapter.staInfo psta) = some d
  loop : coalesceLoop psta (pkt.data.length + 2) (sentStart padapter pkt a m psta d) = some s
  loopEnd : LoopEnd (sentAttrib padapter a psta) padapter.fragLen pkt.payload s
  adapter : ∃ pn, s.padapter = (sentAdapter padapter a psta).setTxpn psta pn
  addmic : xmitframeAddmic s.padapter ⟨s.pattrib, s.mem⟩ = some f
  outcome : o = ⟨true, s.padapter, xmitframeSwencrypt s.padapter f, s.mpdus⟩

section Function
variable {padapter : RtwAdapter} {pkt : EthFrame} {pattrib a : PktAttrib} {m : Mem} {o : CoalesceOutcome}

theorem EthFrame.data_length (pkt : EthFrame) : pkt.data.length = pkt.payload.length + 14 := by
  unfold EthFrame.data
  simp only [List.length_append, Vector.length_toList]
  omega

/-- The loop of a frame with attributes from `update_attrib` ends. -/
theorem sentStart_ends (ha : AttribOf padapter pkt pattrib a) (psta : StaId) (d : HdrDir) :
    ∃ s, coalesceLoop psta (pkt.data.length + 2) (sentStart padapter pkt a m psta d) = some s ∧
      LoopEnd (sentAttrib padapter a psta) padapter.fragLen pkt.payload s := by
  have harr : InArrays (sentAttrib padapter a psta) := ⟨ha.inArrays.iv, ha.inArrays.icv⟩
  by_cases hfit : Fits padapter.fragLen (sentAttrib padapter a psta) pkt.payload.length
  · exact coalesceLoop_fits psta (sentAdapter padapter a psta) pkt _ _ harr ha.pktHdrlen ha.pktlen hfit _
  · refine coalesceLoop_cuts psta (sentAdapter padapter a psta) pkt _ _ harr ha.pktHdrlen hfit _ ?_
    rw [EthFrame.data_length]
    omega

theorem makeWlanhdr_eq (ha : AttribOf padapter pkt pattrib a) (psta : StaId)
    (hsta : xmitSta padapter a = some psta) (hdr : ℤ) : rtwMakeWlanhdr padapter m hdr a =
      (hdrDir padapter a (padapter.staInfo psta)).map fun d =>
        (sentAdapter padapter a psta, sentAttrib padapter a psta,
          putWlanhdr m hdr a d (nextSeqnum (padapter.staInfo psta) a.priority)) := by
  obtain ⟨p, hp, -, -⟩ := ha.psta
  have hlinked : linkedSta padapter p = some psta := by
    rw [xmitSta, hp] at hsta
    exact hsta
  have hframe : frameSta padapter a = some p := by
    rw [frameSta, hp]
  have hdata : ¬ a.subtype &&& WIFI_DATA_TYPE = 0 := by
    cases ha.shape with
    | plain hlen hsub hprio =>
      rw [hsub]
      decide
    | qos hlen hsub =>
      rw [hsub]
      decide
  unfold rtwMakeWlanhdr
  rw [hframe, Option.bind_eq_bind, Option.bind_some, hlinked, Option.bind_eq_bind, Option.bind_some, if_neg hdata]
  cases hdrDir padapter a (padapter.staInfo psta) with
  | none => rfl
  | some d => rfl

/-- **`rtw_xmitframe_coalesce` returns.** -/
theorem coalesce_returns (ha : AttribOf padapter pkt pattrib a) :
    ∃ o, rtwXmitframeCoalesce padapter pkt ⟨a, m⟩ = some o := by
  unfold rtwXmitframeCoalesce
  dsimp only
  cases hsta : xmitSta padapter a with
  | none => exact ⟨_, rfl⟩
  | some psta =>
    rw [makeWlanhdr_eq ha psta hsta]
    cases hdir : hdrDir padapter a (padapter.staInfo psta) with
    | none => exact ⟨_, rfl⟩
    | some d =>
      obtain ⟨s, hs, -⟩ := sentStart_ends (m := m) ha psta d
      refine ⟨coalesceTail s, ?_⟩
      show (coalesceLoop psta _ (sentStart padapter pkt a m psta d)).map coalesceTail = _
      rw [hs]
      rfl

theorem sentStart_adapter {psta : StaId} {d : HdrDir} {n : ℕ} {s : Frag}
    (h : coalesceLoop psta n (sentStart padapter pkt a m psta d) = some s) :
    ∃ pn, s.padapter = (sentAdapter padapter a psta).setTxpn psta pn := by
  have hstart : ∃ pn, (sentStart padapter pkt a m psta d).padapter
      = (sentAdapter padapter a psta).setTxpn psta pn := ⟨_, (setTxpn_self _ psta).symm⟩
  have hiv : ∀ t : Frag, (∃ pn, t.padapter = (sentAdapter padapter a psta).setTxpn psta pn) →
      ∃ pn, (fragIv psta t).padapter = (sentAdapter padapter a psta).setTxpn psta pn := by
    rintro t ⟨pn, hpn⟩
    obtain ⟨pn', hpn'⟩ := fragIv_adapter psta t
    exact ⟨pn', by rw [hpn', hpn, setTxpn_setTxpn]⟩
  obtain ⟨t, ht, -, rfl⟩ := coalesceLoop_invariant psta _ _ _ s h hstart fun t ht _ => hiv t ht
  exact hiv t ht

theorem coalesce_sent (ha : AttribOf padapter pkt pattrib a)
    (h : rtwXmitframeCoalesce padapter pkt ⟨a, m⟩ = some o) (hret : o.ret = true) :
    ∃ psta d s f, Sent padapter pkt a m psta d s f o := by
  unfold rtwXmitframeCoalesce at h
  dsimp only at h
  cases hsta : xmitSta padapter a with
  | none =>
    rw [hsta] at h
    cases h
    cases hret
  | some psta =>
    rw [hsta] at h
    dsimp only at h
    rw [makeWlanhdr_eq ha psta hsta] at h
    cases hdir : hdrDir padapter a (padapter.staInfo psta) with
    | none =>
      rw [hdir] at h
      cases h
      cases hret
    | some d =>
      rw [hdir] at h
      change (coalesceLoop psta _ (sentStart padapter pkt a m psta d)).map coalesceTail = some o at h
      obtain ⟨s, hs, hend⟩ := sentStart_ends (m := m) ha psta d
      rw [hs] at h
      have ho : coalesceTail s = o := Option.some.inj h
      have hadapter := sentStart_adapter hs
      cases hmic : xmitframeAddmic s.padapter ⟨s.pattrib, s.mem⟩ with
      | none =>
        rw [coalesceTail, hmic] at ho
        rw [← ho] at hret
        cases hret
      | some f =>
        rw [coalesceTail, hmic] at ho
        exact ⟨psta, d, s, f, hsta, hdir, hs, hend, hadapter, hmic, ho.symm⟩

/-- A frame for a linked station, in a mode that sends data and with a Michael key if it needs one, is
built. -/
theorem coalesce_succeeds (ha : AttribOf padapter pkt pattrib a) (psta : StaId) (d : HdrDir)
    (hsta : xmitSta padapter a = some psta) (hdir : hdrDir padapter a (padapter.staInfo psta) = some d)
    (hkey : a.encrypt = TKIP → txMickey padapter a psta ≠ none) :
    ∃ o, rtwXmitframeCoalesce padapter pkt ⟨a, m⟩ = some o ∧ o.ret = true := by
  obtain ⟨s, hs, hend⟩ := sentStart_ends (m := m) ha psta d
  obtain ⟨pn, hpn⟩ := sentStart_adapter hs
  have hinfo : ((sentAdapter padapter a psta).setTxpn psta pn).staInfo psta
      = { countSeqnum (padapter.staInfo psta) a.priority with dot11txpn := pn } := by
    unfold RtwAdapter.setTxpn RtwAdapter.setInfo StaPriv.setInfo RtwAdapter.staInfo sentAdapter
      RtwAdapter.setInfo StaPriv.setInfo RtwAdapter.staInfo
    simp
  have hattrib := hend.attrib
  have hstas : xmitSta s.padapter s.pattrib = some psta := by
    obtain ⟨p, hp, -, -⟩ := ha.psta
    have hp' : s.pattrib.psta = some p := (congrArg PktAttrib.psta hattrib).trans hp
    rw [xmitSta, hp] at hsta
    rw [xmitSta, hp']
    change linkedSta padapter p = some psta at hsta
    show linkedSta s.padapter p = some psta
    unfold linkedSta at hsta ⊢
    split at hsta
    · rename_i hlinked
      cases hsta
      rw [hpn, hinfo]
      exact if_pos hlinked
    · cases hsta
  have hmickey : txMickey s.padapter s.pattrib psta = txMickey padapter a psta := by
    rw [hattrib, hpn]
    unfold txMickey
    rw [hinfo]
    rfl
  have henc : s.pattrib.encrypt = a.encrypt := (congrArg PktAttrib.encrypt hattrib).trans rfl
  have hmic : ∃ f, xmitframeAddmic s.padapter ⟨s.pattrib, s.mem⟩ = some f := by
    unfold xmitframeAddmic
    dsimp only
    rw [hstas, Option.bind_eq_bind, Option.bind_some, hmickey, henc]
    split
    · rename_i htkip
      obtain ⟨key, hk⟩ := Option.ne_none_iff_exists'.mp (hkey htkip)
      rw [hk]
      exact ⟨_, rfl⟩
    · exact ⟨_, rfl⟩
  obtain ⟨f, hf⟩ := hmic
  refine ⟨coalesceTail s, ?_, ?_⟩
  · unfold rtwXmitframeCoalesce
    dsimp only
    rw [hsta]
    dsimp only
    rw [makeWlanhdr_eq ha psta hsta, hdir]
    show (coalesceLoop psta _ (sentStart padapter pkt a m psta d)).map coalesceTail = _
    rw [hs]
    rfl
  · rw [coalesceTail, hf]

end Function

/-! ## A station and its access point -/

/-- An associated station whose access point has the address zero. -/
def stationAdapter (sp : SecurityPriv) (info : StaInfo) (fragLen : ℕ) : RtwAdapter where
  securitypriv := sp
  fwState := WIFI_STATION_STATE
  fragLen := fragLen
  stapriv := { staHash := fun _ => [0], staInfo := fun _ => { info with state := _FW_LINKED } }

def zeroEth (n : ℕ) (h : n < 2 ^ 30) : EthFrame where
  hDest := Vector.replicate 6 0
  hSource := Vector.replicate 6 0
  hProto := Vector.replicate 2 0
  payload := List.replicate n 0
  payload_lt := by rw [List.length_replicate]; exact h

end Rtl8723au
