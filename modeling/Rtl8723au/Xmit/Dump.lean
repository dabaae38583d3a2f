import Rtl8723au.Xmit.CoalesceLoop

/-! `rtw_dump_xframe` of `hal/rtl8723au_xmit.c` with `usb_write_port`: the part of the buffer each turn
hands to the bus. The contents of the descriptors are left out, and so are failing transfers. -/
namespace Rtl8723au
open Mem Security
set_option autoImplicit false

/-- `urb_zero_packet_chk`. -/
def urbZeroPacketChk (padapter : RtwAdapter) (sz : ℤ) : Bool :=
  if padapter.ishighspeed then (sz + TXDESC_SIZE) % 512 == 0 else (sz + TXDESC_SIZE) % 64 == 0

section Dump
variable (padapter : RtwAdapter) (a : PktAttrib)

/-- `sz` of the turn `t`. -/
def dumpSz (t : ℕ) : ℤ :=
  if (t : ℤ) ≠ a.nrFrags - 1 then
    (padapter.fragLen : ℤ) - 4 - if padapter.securitypriv.swEncrypt then 0 else a.icvLen
  else a.lastTxcmdsz

/-- What `update_txdesc` returns: the descriptor is put 8 bytes further on. -/
def dumpPull (t : ℕ) : Bool := !urbZeroPacketChk padapter (dumpSz padapter a t)

/-- `w_sz`. -/
def dumpWSz (t : ℕ) : ℤ :=
  if dumpPull padapter a t then dumpSz padapter a t + TXDESC_SIZE
  else dumpSz padapter a t + TXDESC_SIZE + PACKET_OFFSET_SZ

/-- `mem_addr` once the descriptor is pulled. -/
def pulledAddr (memAddr : ℤ) (t : ℕ) : ℤ :=
  if dumpPull padapter a t then memAddr + PACKET_OFFSET_SZ else memAddr

/-- `pxmitframe->buf_addr`, which only a pull moves. -/
def pulledBuf (memAddr bufAddr : ℤ) (t : ℕ) : ℤ :=
  if dumpPull padapter a t then memAddr + PACKET_OFFSET_SZ else bufAddr

/-- `mem_addr` and `buf_addr` when the turn `t` starts. -/
def dumpAddrs : ℕ → ℤ × ℤ
  | 0 => (0, 0)
  | t + 1 =>
    let s := dumpAddrs t
    (rnd4 (pulledAddr padapter a s.1 t + dumpWSz padapter a t), pulledBuf padapter a s.1 s.2 t)

/-- The MPDU of a transfer: `w_sz` bytes from `buf_addr` on, the last `sz` of which are the MPDU. -/
def dumpSpan (t : ℕ) : ℤ × ℤ :=
  let s := dumpAddrs padapter a t
  (pulledBuf padapter a s.1 s.2 t + (dumpWSz padapter a t - dumpSz padapter a t), dumpSz padapter a t)

def rtwDumpXframe : List (ℤ × ℤ) := (List.range a.nrFrags).map (dumpSpan padapter a)

/-- Where the MPDU of the turn `t` is looked for: behind the descriptor and its offset. -/
theorem pulledAddr_add (memAddr : ℤ) (t : ℕ) :
    pulledAddr padapter a memAddr t + dumpWSz padapter a t = memAddr + TXDESC_OFFSET + dumpSz padapter a t := by
  have hoff : (TXDESC_OFFSET : ℤ) = TXDESC_SIZE + PACKET_OFFSET_SZ := by
    rw [TXDESC_OFFSET]
    push_cast
    rfl
  unfold pulledAddr dumpWSz
  rw [hoff]
  split <;> ring

theorem dumpSpan_pull (t : ℕ) (h : dumpPull padapter a t = true) :
    dumpSpan padapter a t = ((dumpAddrs padapter a t).1 + TXDESC_OFFSET, dumpSz padapter a t) := by
  have hoff : (TXDESC_OFFSET : ℤ) = TXDESC_SIZE + PACKET_OFFSET_SZ := by
    rw [TXDESC_OFFSET]
    push_cast
    rfl
  unfold dumpSpan pulledBuf dumpWSz
  dsimp only
  rw [if_pos h, if_pos h, hoff, Prod.mk.injEq]
  exact ⟨by ring, rfl⟩

theorem dumpSpan_no_pull (t : ℕ) (h : dumpPull padapter a t = false) :
    dumpSpan padapter a t = ((dumpAddrs padapter a t).2 + TXDESC_OFFSET, dumpSz padapter a t) := by
  have hoff : (TXDESC_OFFSET : ℤ) = TXDESC_SIZE + PACKET_OFFSET_SZ := by
    rw [TXDESC_OFFSET]
    push_cast
    rfl
  unfold dumpSpan pulledBuf dumpWSz
  dsimp only
  rw [if_neg (by rw [h]; exact Bool.false_ne_true), if_neg (by rw [h]; exact Bool.false_ne_true), hoff,
    Prod.mk.injEq]
  exact ⟨by ring, rfl⟩

theorem dumpSpan_zero : dumpSpan padapter a 0 = ((TXDESC_OFFSET : ℤ), dumpSz padapter a 0) := by
  cases h : dumpPull padapter a 0 with
  | true =>
    rw [dumpSpan_pull padapter a 0 h]
    exact congrArg (·, _) (zero_add _)
  | false =>
    rw [dumpSpan_no_pull padapter a 0 h]
    exact congrArg (·, _) (zero_add _)

theorem rtwDumpXframe_one (h : a.nrFrags = 1) : rtwDumpXframe padapter a = [((TXDESC_OFFSET : ℤ), (a.lastTxcmdsz : ℤ))] := by
  rw [rtwDumpXframe, h]
  show [dumpSpan padapter a 0] = _
  rw [dumpSpan_zero, dumpSz, if_neg (by rw [h]; norm_num)]

/-- `buf_addr` stays behind `mem_addr`. -/
theorem dumpAddrs_lt (t : ℕ) (h : ∀ i ≤ t, 0 ≤ dumpSz padapter a i) :
    (dumpAddrs padapter a (t + 1)).2 < (dumpAddrs padapter a (t + 1)).1 := by
  have hbuf : ∀ i ≤ t, (dumpAddrs padapter a i).2 ≤ (dumpAddrs padapter a i).1 →
      (dumpAddrs padapter a (i + 1)).2 < (dumpAddrs padapter a (i + 1)).1 := by
    intro i hi hle
    have hsz := h i hi
    have hoff : (TXDESC_OFFSET : ℤ) = 40 := rfl
    have hpkt : (PACKET_OFFSET_SZ : ℤ) = 8 := rfl
    have hrnd := (rnd4_bounds (pulledAddr padapter a (dumpAddrs padapter a i).1 i + dumpWSz padapter a i)).1
    rw [pulledAddr_add] at hrnd
    show pulledBuf padapter a (dumpAddrs padapter a i).1 (dumpAddrs padapter a i).2 i < rnd4 _
    rw [pulledAddr_add]
    unfold pulledBuf
    split <;> omega
  induction t with
  | zero => exact hbuf 0 le_rfl le_rfl
  | succ t ih =>
    have hprev := ih (fun i hi => h i (Nat.le_succ_of_le hi)) fun i hi => hbuf i (Nat.le_succ_of_le hi)
    exact hbuf (t + 1) le_rfl hprev.le

/-- `mem_addr` follows the layout as long as the sizes do. -/
theorem dumpAddrs_layout (fragLen t : ℕ) (h : ∀ i < t, dumpSz padapter a i = fragLen - 4) :
    (dumpAddrs padapter a t).1 + TXDESC_OFFSET = layoutStart fragLen t := by
  induction t with
  | zero => exact zero_add _
  | succ t ih =>
    have hprev := ih fun i hi => h i (Nat.lt_succ_of_lt hi)
    show rnd4 _ + TXDESC_OFFSET = rnd4 _ + TXDESC_OFFSET
    rw [pulledAddr_add, h t (Nat.lt_succ_self t), hprev]

end Dump

end Rtl8723au

/-! Which stretches of the buffer the stages of a transmission take for its MPDUs: those that
`rtw_xmitframe_coalesce` writes, those that software encryption walks over, and those that
`rtw_dump_xframe` hands to the bus. -/
namespace Rtl8723au
open Mem Security
set_option autoImplicit false

/-- The ciphers `xmitframe_swencrypt` has a routine for. -/
def IsCipher (encrypt : ℕ) : Prop := encrypt = WEP40 ∨ encrypt = WEP104 ∨ encrypt = TKIP ∨ encrypt = AES

instance (encrypt : ℕ) : Decidable (IsCipher encrypt) := inferInstanceAs (Decidable (_ ∨ _))

/-- What the Michael code adds to the last MPDU. -/
def micLen (a : PktAttrib) : ℕ := if a.encrypt = TKIP then 8 else 0

def writtenSpans (a : PktAttrib) (mpdus : List Mpdu) : List (ℤ × ℤ) :=
  mpdus.mapIdx fun i u =>
    (u.start, (a.hdrlen + u.body.length + (if i + 1 = mpdus.length then micLen a else 0) : ℕ))

/-- Start and length of the MPDUs as the three encryption routines compute them. -/
def encryptSpans (fragLen : ℕ) (a : PktAttrib) : List (ℤ × ℤ) :=
  (List.range a.nrFrags).map fun i =>
    (fragPframe fragLen i, (a.hdrlen + a.ivLen : ℤ) + fragLength fragLen a i + a.icvLen)

/-- The stages agree, on stretches that do not overlap. -/
structure LayoutAgrees (padapter : RtwAdapter) (a : PktAttrib) (mpdus : List Mpdu) : Prop where
  apart : (writtenSpans a mpdus).Pairwise fun x y => x.1 + x.2 ≤ y.1
  encrypt : a.bswenc = true → IsCipher a.encrypt → writtenSpans a mpdus = encryptSpans padapter.fragLen a
  dump : writtenSpans a mpdus = rtwDumpXframe padapter a

/-- How many MPDUs a packet that does not fit is cut into. -/
def mpduCount (fragLen : ℕ) (a : PktAttrib) (len : ℕ) : ℕ :=
  (len + 8 + ((fragRoom fragLen a).toNat - 1)) / (fragRoom fragLen a).toNat

/-- The length of its MPDU `t` without encryption. -/
def mpduSize (fragLen : ℕ) (a : PktAttrib) (len t : ℕ) : ℤ :=
  if t + 1 < mpduCount fragLen a len then (fragLen : ℤ) - 4
  else a.hdrlen + (len + 8 - (mpduCount fragLen a len - 1) * (fragRoom fragLen a).toNat : ℕ)

/-- The packet is one MPDU; or it is not encrypted, is at most 255 of them, and none after the first would
end on a packet boundary of the bus. -/
def OneLayout (padapter : RtwAdapter) (a : PktAttrib) (len : ℕ) : Prop :=
  Fits padapter.fragLen a len ∨
    ¬ IsCipher a.encrypt ∧ mpduCount padapter.fragLen a len ≤ 255 ∧
      ∀ t, 0 < t → t < mpduCount padapter.fragLen a len →
        urbZeroPacketChk padapter (mpduSize padapter.fragLen a len t) = false

/-! ## Lengths -/

section Lengths
variable {a : PktAttrib} {fragLen : ℕ} {payload : List UInt8} {mpdus : List Mpdu}

theorem ivIcvLen_cipher (encrypt : ℕ) (h : IsCipher encrypt) :
    0 < (ivIcvLen encrypt).1 ∧ 0 < (ivIcvLen encrypt).2 := by
  obtain rfl | rfl | rfl | rfl := h <;> decide

theorem ivIcvLen_none (encrypt : ℕ) (h : ¬ IsCipher encrypt) : ivIcvLen encrypt = (0, 0) := by
  unfold IsCipher WEP40 WEP104 TKIP AES at h
  unfold ivIcvLen
  split
  · omega
  · omega
  · omega
  · omega
  · rfl

theorem Placed.body_length {i : ℕ} {u : Mpdu} (h : Placed a fragLen i u) :
    u.body.length = a.ivLen + u.text.length + icvRoom a := by
  rw [Mpdu.body, Mpdu.text, List.length_append, List.length_append, List.length_append, List.length_append,
    h.iv, h.icv]
  omega

theorem flatMap_text_length (l : List Mpdu) (c r : ℕ) (hne : l ≠ [])
    (hfull : ∀ (i : ℕ) (u : Mpdu), l[i]? = some u → i + 1 < l.length → u.text.length = c)
    (hlast : ∀ u : Mpdu, l[l.length - 1]? = some u → u.text.length = r) :
    (l.flatMap Mpdu.text).length = (l.length - 1) * c + r := by
  induction l with
  | nil => exact absurd rfl hne
  | cons u l ih =>
    cases l with
    | nil =>
      have hu := hlast u rfl
      simp [hu]
    | cons v l =>
      have hu : u.text.length = c := hfull 0 u rfl (by simp)
      have hrest := ih (List.cons_ne_nil v l)
        (fun i w hw hi => hfull (i + 1) w hw (by rw [List.length_cons]; omega))
        (fun w hw => hlast w (by simpa using hw))
      rw [List.flatMap_cons, List.length_append, hrest, hu]
      simp only [List.length_cons, Nat.add_sub_cancel]
      ring

theorem Cut.sizes (h : Cut a fragLen payload mpdus) (hmany : 1 < mpdus.length) : ∃ c r : ℕ,
    fragRoom fragLen a = c ∧ 8 ≤ c ∧ 0 < r ∧ r ≤ c ∧ payload.length + 8 = (mpdus.length - 1) * c + r ∧
    (∀ u, mpdus[mpdus.length - 1]? = some u → u.text.length = r) ∧
    mpduCount fragLen a payload.length = mpdus.length := by
  have hfit : ¬ Fits fragLen a payload.length := fun hf => by
    have := h.one.mpr hf
    omega
  unfold Fits at hfit
  rw [not_or, not_or] at hfit
  obtain ⟨-, hroom, -⟩ := hfit
  obtain ⟨c, hc⟩ : ∃ c : ℕ, fragRoom fragLen a = c := ⟨(fragRoom fragLen a).toNat, by omega⟩
  obtain ⟨u, hu⟩ : ∃ u, mpdus[mpdus.length - 1]? = some u :=
    ⟨_, List.getElem?_eq_getElem (by omega)⟩
  obtain ⟨hpos, hle⟩ := h.last hmany u hu
  have hr : ∀ w, mpdus[mpdus.length - 1]? = some w → w.text.length = u.text.length := by
    intro w hw
    rw [hu] at hw
    cases hw
    rfl
  have hsum := flatMap_text_length mpdus c u.text.length h.nonempty
    (fun i w hw hi => by
      have := h.full i w hw hi
      omega) hr
  rw [h.text, List.length_append, rtwPutSnap_length, Nat.add_comm] at hsum
  refine ⟨c, u.text.length, hc, by omega, hpos, by omega, hsum, hr, ?_⟩
  unfold mpduCount
  rw [hc, Int.toNat_natCast, hsum]
  have hk : (mpdus.length - 1) * c + c = mpdus.length * c := by
    obtain ⟨k, hk⟩ : ∃ k, mpdus.length = k + 1 := ⟨mpdus.length - 1, by omega⟩
    rw [hk, Nat.add_sub_cancel]
    ring
  apply Nat.div_eq_of_lt_le
  · omega
  · rw [Nat.add_mul, Nat.one_mul]
    omega

end Lengths

/-! ## When the stages agree -/

/-- A frame as `rtw_xmitframe_coalesce` leaves it. -/
structure Built (q : RtwAdapter) (a : PktAttrib) (payload : List UInt8) (mpdus : List Mpdu) : Prop where
  cut : Cut a q.fragLen payload mpdus
  nrFrags : a.nrFrags = mpdus.length % 256
  lastTxcmdsz : ∀ u : Mpdu, mpdus[mpdus.length - 1]? = some u →
    a.lastTxcmdsz = a.hdrlen + a.ivLen + u.text.length + icvRoom a + micLen a
  lens : (a.ivLen, a.icvLen) = ivIcvLen a.encrypt
  bswenc : a.bswenc = (a.encrypt != 0 && (q.securitypriv.swEncrypt || !q.securitypriv.hwDecrypted))

section Agree
variable {q : RtwAdapter} {a : PktAttrib} {payload : List UInt8} {mpdus : List Mpdu}

/-- The stretch of the MPDU `i`. -/
theorem writtenSpans_getElem? (i : ℕ) (u : Mpdu) (hu : mpdus[i]? = some u) (hp : Placed a q.fragLen i u) :
    (writtenSpans a mpdus)[i]? = some (layoutStart q.fragLen i,
      ((a.hdrlen + a.ivLen + u.text.length + icvRoom a + if i + 1 = mpdus.length then micLen a else 0 : ℕ) : ℤ)) := by
  unfold writtenSpans
  rw [List.getElem?_mapIdx, hu, Option.map_some, hp.start, hp.body_length]
  congr 3
  ring

theorem getElem?_range_map (f : ℕ → ℤ × ℤ) (n i : ℕ) (h : i < n) : ((List.range n).map f)[i]? = some (f i) := by
  rw [List.getElem?_map, List.getElem?_range h, Option.map_some]

theorem Built.written_full (h : Built q a payload mpdus) (i : ℕ) (hi : i + 1 < mpdus.length) :
    (writtenSpans a mpdus)[i]? = some (layoutStart q.fragLen i, (q.fragLen : ℤ) - 4) := by
  have hget := List.getElem?_eq_getElem (l := mpdus) (i := i) (by omega)
  have hfull := h.cut.full i _ hget hi
  rw [writtenSpans_getElem? i _ hget (h.cut.placed i _ hget), if_neg (by omega)]
  congr 2
  unfold fragRoom at hfull
  push_cast
  omega

/-- The stretch of the last one is what `last_txcmdsz` says. -/
theorem Built.written_last (h : Built q a payload mpdus) :
    (writtenSpans a mpdus)[mpdus.length - 1]? =
      some (layoutStart q.fragLen (mpdus.length - 1), (a.lastTxcmdsz : ℤ)) := by
  have hpos := List.length_pos_of_ne_nil h.cut.nonempty
  have hget := List.getElem?_eq_getElem (l := mpdus) (i := mpdus.length - 1) (by omega)
  rw [writtenSpans_getElem? _ _ hget (h.cut.placed _ _ hget), if_pos (by omega), h.lastTxcmdsz _ hget]

theorem layoutStart_apart (fragLen i j : ℕ) (hfrag : 4 ≤ fragLen) (hij : i < j) :
    layoutStart fragLen i + (fragLen - 4) ≤ layoutStart fragLen j := by
  have hnext : ∀ k, layoutStart fragLen k + (fragLen - 4) ≤ layoutStart fragLen (k + 1) := by
    intro k
    have hrnd := (rnd4_bounds (layoutStart fragLen k + (fragLen - 4))).1
    show _ ≤ rnd4 _ + (TXDESC_OFFSET : ℤ)
    omega
  induction j with
  | zero => omega
  | succ j ih =>
    have hj := hnext j
    obtain rfl | hlt := Nat.lt_succ_iff_lt_or_eq.mp hij |>.symm
    · exact hj
    · have := ih hlt
      omega

theorem Built.apart (h : Built q a payload mpdus) : (writtenSpans a mpdus).Pairwise fun x y => x.1 + x.2 ≤ y.1 := by
  have hlen : (writtenSpans a mpdus).length = mpdus.length := List.length_mapIdx
  rw [List.pairwise_iff_getElem]
  intro i j hi hj hij
  rw [hlen] at hi hj
  have hfull := h.written_full i (by omega)
  have hstart : ∃ n, (writtenSpans a mpdus)[j]? = some (layoutStart q.fragLen j, n) := by
    have hget := List.getElem?_eq_getElem (l := mpdus) (i := j) hj
    exact ⟨_, writtenSpans_getElem? j _ hget (h.cut.placed j _ hget)⟩
  obtain ⟨n, hn⟩ := hstart
  obtain ⟨_, hi'⟩ := List.getElem?_eq_some_iff.mp hfull
  obtain ⟨_, hj'⟩ := List.getElem?_eq_some_iff.mp hn
  rw [hi', hj']
  obtain ⟨c, r, hroom, -⟩ := h.cut.sizes (by omega)
  unfold fragRoom at hroom
  exact layoutStart_apart q.fragLen i j (by omega) hij

theorem Built.agrees_one (h : Built q a payload mpdus) (hone : mpdus.length = 1) : LayoutAgrees q a mpdus := by
  have hnr : a.nrFrags = 1 := by
    rw [h.nrFrags, hone]
  have hlast := h.written_last
  rw [hone] at hlast
  have hlen : (writtenSpans a mpdus).length = 1 := by
    rw [writtenSpans, List.length_mapIdx, hone]
  have hwritten : writtenSpans a mpdus = [((TXDESC_OFFSET : ℤ), (a.lastTxcmdsz : ℤ))] := by
    obtain ⟨x, hx⟩ := List.length_eq_one_iff.mp hlen
    rw [hx] at hlast ⊢
    cases hlast
    rfl
  refine ⟨h.apart, fun _ _ => ?_, ?_⟩
  · rw [hwritten, encryptSpans, hnr]
    show [_] = [(fragPframe q.fragLen 0, _)]
    rw [fragLength, if_pos (by rw [hnr])]
    congr 2
    ring
  · rw [hwritten, rtwDumpXframe_one q a hnr]

/-- Several MPDUs of an encrypted frame: the first one's length is already not agreed on. -/
theorem Built.not_cipher (h : Built q a payload mpdus) (hmany : 1 < mpdus.length)
    (hagree : LayoutAgrees q a mpdus) : ¬ IsCipher a.encrypt := by
  intro hc
  have hfirst := h.written_full 0 hmany
  have hlen : (writtenSpans a mpdus).length = mpdus.length := List.length_mapIdx
  have hlens := h.lens
  have hpos := ivIcvLen_cipher a.encrypt hc
  rw [← hlens] at hpos
  cases hsw : a.bswenc with
  | true =>
    have heq := hagree.encrypt hsw hc
    have hnr : a.nrFrags = mpdus.length := by
      have := congrArg List.length heq
      rw [hlen, encryptSpans, List.length_map, List.length_range] at this
      exact this.symm
    rw [heq, encryptSpans, getElem?_range_map _ _ _ (by omega)] at hfirst
    have hspan := congrArg Prod.snd (Option.some.inj hfirst)
    dsimp only at hspan
    rw [fragLength, if_neg (by omega)] at hspan
    omega
  | false =>
    have heq := hagree.dump
    have hnr : a.nrFrags = mpdus.length := by
      have := congrArg List.length heq
      rw [hlen, rtwDumpXframe, List.length_map, List.length_range] at this
      exact this.symm
    have hnosw : q.securitypriv.swEncrypt = false := by
      have hb := h.bswenc
      rw [hsw] at hb
      have hne : (a.encrypt != 0) = true := by
        obtain he | he | he | he := hc <;> rw [he] <;> rfl
      rw [hne, Bool.true_and] at hb
      cases hs : q.securitypriv.swEncrypt with
      | true =>
        rw [hs] at hb
        cases hb
      | false => rfl
    rw [heq, rtwDumpXframe, getElem?_range_map _ _ _ (by omega)] at hfirst
    have hspan := congrArg Prod.snd (Option.some.inj hfirst)
    rw [dumpSpan_zero] at hspan
    dsimp only at hspan
    rw [dumpSz, if_pos (by omega), hnosw, if_neg Bool.false_ne_true] at hspan
    omega

/-- The sizes `rtw_dump_xframe` goes by when nothing is encrypted. -/
theorem Built.dumpSz_eq (h : Built q a payload mpdus) (hmany : 1 < mpdus.length) (hc : ¬ IsCipher a.encrypt)
    (hnr : a.nrFrags = mpdus.length) (t : ℕ) (ht : t < mpdus.length) :
    dumpSz q a t = mpduSize q.fragLen a payload.length t := by
  obtain ⟨c, r, hroom, hc8, hr0, hrc, hsum, hlast, hcount⟩ := h.cut.sizes hmany
  have hlens := h.lens
  rw [ivIcvLen_none a.encrypt hc, Prod.mk.injEq] at hlens
  have hmic : micLen a = 0 := if_neg fun he => hc (.inr (.inr (.inl he)))
  unfold dumpSz mpduSize
  rw [hcount, hnr, hlens.2, hroom, Int.toNat_natCast]
  by_cases hend : t + 1 < mpdus.length
  · rw [if_pos (by omega), if_pos hend]
    split <;> ring
  · rw [if_neg (by omega), if_neg hend]
    have hget := List.getElem?_eq_getElem (l := mpdus) (i := mpdus.length - 1) (by omega)
    have hicv : icvRoom a = 0 := by
      unfold icvRoom
      rw [hlens.2]
      split <;> rfl
    rw [h.lastTxcmdsz _ hget, hlast _ hget, hlens.1, hmic, hicv]
    have hleft : payload.length + 8 - (mpdus.length - 1) * c = r := by omega
    rw [hleft]
    push_cast
    ring

theorem Built.written_plain (h : Built q a payload mpdus) (hmany : 1 < mpdus.length)
    (hc : ¬ IsCipher a.encrypt) (hnr : a.nrFrags = mpdus.length) (t : ℕ) (ht : t < mpdus.length) :
    (writtenSpans a mpdus)[t]? = some (layoutStart q.fragLen t, dumpSz q a t) := by
  have hicv : a.icvLen = 0 := by
    have hlens := h.lens
    rw [ivIcvLen_none a.encrypt hc, Prod.mk.injEq] at hlens
    exact hlens.2
  unfold dumpSz
  by_cases hend : t + 1 < mpdus.length
  · rw [h.written_full t hend, if_pos (by omega), hicv]
    congr 2
    split <;> ring
  · have hlast : t = mpdus.length - 1 := by omega
    rw [hlast, h.written_last, if_neg (by omega)]

/-- `mem_addr` follows the MPDUs written. -/
theorem Built.dumpAddrs_eq (h : Built q a payload mpdus) (hc : ¬ IsCipher a.encrypt)
    (hnr : a.nrFrags = mpdus.length) (t : ℕ) (ht : t < mpdus.length) :
    (dumpAddrs q a t).1 + TXDESC_OFFSET = layoutStart q.fragLen t ∧
      ∀ i < t, dumpSz q a i = (q.fragLen : ℤ) - 4 := by
  have hicv : a.icvLen = 0 := by
    have hlens := h.lens
    rw [ivIcvLen_none a.encrypt hc, Prod.mk.injEq] at hlens
    exact hlens.2
  have hsz : ∀ i < t, dumpSz q a i = (q.fragLen : ℤ) - 4 := by
    intro i hi
    rw [dumpSz, if_pos (by omega), hicv]
    split <;> ring
  exact ⟨dumpAddrs_layout q a q.fragLen t hsz, hsz⟩

/-- **The stages agree exactly under `OneLayout`.** -/
theorem Built.agrees_iff (h : Built q a payload mpdus) :
    LayoutAgrees q a mpdus ↔ OneLayout q a payload.length := by
  have hpos := List.length_pos_of_ne_nil h.cut.nonempty
  by_cases hone : mpdus.length = 1
  · exact iff_of_true (h.agrees_one hone) (.inl (h.cut.one.mp hone))
  have hmany : 1 < mpdus.length := by omega
  obtain ⟨c, r, hroom, hc8, -, -, -, -, hcount⟩ := h.cut.sizes hmany
  have hfrag : (0 : ℤ) ≤ (q.fragLen : ℤ) - 4 := by
    unfold fragRoom at hroom
    omega
  constructor
  · intro hagree
    have hc := h.not_cipher hmany hagree
    have hnr : a.nrFrags = mpdus.length := by
      have hlen := congrArg List.length hagree.dump
      rw [writtenSpans, List.length_mapIdx, rtwDumpXframe, List.length_map, List.length_range] at hlen
      exact hlen.symm
    refine .inr ⟨hc, ?_, ?_⟩
    · have hmod := h.nrFrags
      omega
    · intro t ht0 ht
      rw [hcount] at ht
      rw [← h.dumpSz_eq hmany hc hnr t ht]
      obtain ⟨haddr, hsz⟩ := h.dumpAddrs_eq hc hnr t ht
      cases hchk : urbZeroPacketChk q (dumpSz q a t) with
      | false => rfl
      | true =>
        exfalso
        have hpull : dumpPull q a t = false := by
          rw [dumpPull, hchk]
          rfl
        have hspan := h.written_plain hmany hc hnr t ht
        rw [hagree.dump, rtwDumpXframe, getElem?_range_map _ _ _ (by omega)] at hspan
        have hstart := congrArg Prod.fst (Option.some.inj hspan)
        rw [dumpSpan_no_pull q a t hpull] at hstart
        have hbehind := dumpAddrs_lt q a (t - 1) fun i hi => by
          rw [hsz i (by omega)]
          exact hfrag
        have hprev : t - 1 + 1 = t := by omega
        rw [hprev] at hbehind
        dsimp only at hstart
        omega
  · intro hcond
    obtain hfit | ⟨hc, h255, hpulls⟩ := hcond
    · exact absurd (h.cut.one.mpr hfit) hone
    rw [hcount] at h255 hpulls
    have hnr : a.nrFrags = mpdus.length := by
      rw [h.nrFrags, Nat.mod_eq_of_lt (by omega)]
    refine ⟨h.apart, fun _ hcipher => absurd hcipher hc, ?_⟩
    apply List.ext_getElem?
    intro t
    by_cases ht : t < mpdus.length
    · rw [h.written_plain hmany hc hnr t ht, rtwDumpXframe, getElem?_range_map _ _ _ (by omega)]
      congr 1
      cases t with
      | zero => exact (dumpSpan_zero q a).symm
      | succ t =>
        have hpull : dumpPull q a (t + 1) = true := by
          rw [dumpPull, h.dumpSz_eq hmany hc hnr (t + 1) ht, hpulls (t + 1) (Nat.succ_pos t) ht]
          rfl
        rw [dumpSpan_pull q a (t + 1) hpull, (h.dumpAddrs_eq hc hnr (t + 1) ht).1]
    · rw [List.getElem?_eq_none (by rw [writtenSpans, List.length_mapIdx]; omega),
        List.getElem?_eq_none (by rw [rtwDumpXframe, List.length_map, List.length_range]; omega)]

end Agree

/-! ## The frames of `rtw_xmitframe_coalesce` -/

section Coalesced
variable {padapter : RtwAdapter} {pkt : EthFrame} {pattrib a : PktAttrib} {m : Mem} {o : CoalesceOutcome}

/-- `xmitframe_addmic` lengthens the last MPDU of a TKIP frame. -/
theorem xmitframeAddmic_attrib (q : RtwAdapter) (f g : XmitFrame) (h : xmitframeAddmic q f = some g) :
    g.attrib = addLastTxcmdsz f.attrib (micLen f.attrib) := by
  unfold xmitframeAddmic at h
  obtain ⟨psta, -, h⟩ := Option.bind_eq_some_iff.mp h
  unfold micLen
  split at h
  · rename_i ht
    obtain ⟨key, -, h⟩ := Option.bind_eq_some_iff.mp h
    cases h
    rw [if_pos ht]
  · rename_i ht
    cases h
    rw [if_neg ht]
    rfl

theorem xmitframeSwencrypt_attrib (q : RtwAdapter) (f : XmitFrame) :
    (xmitframeSwencrypt q f).attrib = f.attrib := by
  unfold xmitframeSwencrypt
  split
  · split <;> rfl
  · rfl

theorem Cut.counts {fragLen : ℕ} {payload : List UInt8} {mpdus : List Mpdu} (h : Cut a fragLen payload mpdus)
    (iv : Vector UInt8 18) (nrFrags lastTxcmdsz : ℕ) :
    Cut { a with iv := iv, nrFrags := nrFrags, lastTxcmdsz := lastTxcmdsz } fragLen payload mpdus :=
  ⟨h.nonempty, h.one, fun i u hu => ⟨(h.placed i u hu).start, (h.placed i u hu).iv, (h.placed i u hu).icv⟩,
    h.full, h.last, h.text⟩

theorem Sent.built (ha : AttribOf padapter pkt pattrib a) {psta : StaId} {d : HdrDir} {s : Frag}
    {f : XmitFrame} (h : Sent padapter pkt a m psta d s f o) :
    Built o.padapter o.pxmitframe.attrib pkt.payload o.mpdus ∧ o.padapter.fragLen = padapter.fragLen := by
  obtain ⟨pn, hpn⟩ := h.adapter
  have hend := h.loopEnd
  have hattrib := xmitframeAddmic_attrib _ _ _ h.addmic
  rw [h.outcome]
  dsimp only
  rw [xmitframeSwencrypt_attrib, hattrib]
  dsimp only
  rw [hend.attrib]
  refine ⟨⟨?_, hend.nrFrags, ?_, ha.lens, ?_⟩, hend.fragLen⟩
  · rw [hend.fragLen]
    exact hend.cut.counts _ _ _
  · intro u hu
    show s.pattrib.lastTxcmdsz + micLen _ = _
    rw [hend.lastTxcmdsz u hu]
    rfl
  · rw [hpn]
    exact ha.bswenc

theorem Sent.oneLayout {psta : StaId} {d : HdrDir} {s : Frag} {f : XmitFrame}
    (h : Sent padapter pkt a m psta d s f o) (len : ℕ) :
    OneLayout o.padapter o.pxmitframe.attrib len ↔ OneLayout padapter a len := by
  obtain ⟨pn, hpn⟩ := h.adapter
  have hattrib := xmitframeAddmic_attrib _ _ _ h.addmic
  rw [h.outcome]
  dsimp only
  rw [xmitframeSwencrypt_attrib, hattrib, h.loopEnd.attrib, hpn]
  rfl

theorem Sent.agrees_iff (ha : AttribOf padapter pkt pattrib a) {psta : StaId} {d : HdrDir} {s : Frag}
    {f : XmitFrame} (h : Sent padapter pkt a m psta d s f o) :
    LayoutAgrees o.padapter o.pxmitframe.attrib o.mpdus ↔ OneLayout padapter a pkt.payload.length := by
  obtain ⟨hbuilt, -⟩ := h.built ha
  rw [hbuilt.agrees_iff, h.oneLayout]

/-- **The layout of the stages**: they agree exactly on the packets of `OneLayout`. -/
theorem coalesce_layout (junk : UInt8) (ha : updateAttrib padapter junk pkt pattrib = some a)
    (hrun : rtwXmitframeCoalesce padapter pkt ⟨a, m⟩ = some o) (hret : o.ret = true) :
    LayoutAgrees o.padapter o.pxmitframe.attrib o.mpdus ↔ OneLayout padapter a pkt.payload.length := by
  have hof := updateAttrib_spec padapter junk pkt pattrib a ha
  obtain ⟨psta, d, s, f, hsent⟩ := coalesce_sent hof hrun hret
  exact hsent.agrees_iff hof

end Coalesced

/-! ## A packet in two MPDUs under WEP -/

/-- A station that encrypts with WEP in software. -/
def wepStation : RtwAdapter := stationAdapter { dot11PrivacyAlgrthm := WEP40 } {} 256

theorem wepStation_sends (m : Mem) : ∃ a o, updateAttrib wepStation 0 (zeroEth 400 (by decide)) {} = some a ∧
    rtwXmitframeCoalesce wepStation (zeroEth 400 (by decide)) ⟨a, m⟩ = some o ∧ o.ret = true ∧
    a.encrypt = WEP40 ∧ ¬ Fits 256 a 400 := by
  obtain ⟨a, ha, henc, hsta, hfit⟩ : ∃ a, updateAttrib wepStation 0 (zeroEth 400 (by decide)) {} = some a ∧
      a.encrypt = WEP40 ∧ xmitSta wepStation a = some 0 ∧ ¬ Fits 256 a 400 :=
    ⟨_, rfl, rfl, rfl, by decide⟩
  have hof := updateAttrib_spec _ _ _ _ _ ha
  obtain ⟨o, hrun, hret⟩ := coalesce_succeeds (m := m) hof 0 _ hsta rfl
    fun hk => absurd (henc.symm.trans hk) (by decide)
  exact ⟨a, o, ha, hrun, hret, henc, hfit⟩

theorem coalesce_layout_wep : ∃ (a : PktAttrib) (o : CoalesceOutcome), updateAttrib wepStation 0 (zeroEth 400 (by decide)) {} = some a ∧
    rtwXmitframeCoalesce wepStation (zeroEth 400 (by decide)) ⟨a, fun _ => 0⟩ = some o ∧ o.ret = true ∧
    (LayoutAgrees o.padapter o.pxmitframe.attrib o.mpdus ↔
      OneLayout wepStation a (zeroEth 400 (by decide)).payload.length) := by
  obtain ⟨a, o, ha, hrun, hret, -, -⟩ := wepStation_sends fun _ => 0
  exact ⟨a, o, ha, hrun, hret, coalesce_layout 0 ha hrun hret⟩

/-- The stages do not always agree. -/
theorem coalesce_layout_differs : ¬ ∀ (padapter : RtwAdapter) (junk : UInt8) (pkt : EthFrame)
    (pattrib a : PktAttrib) (m : Mem) (o : CoalesceOutcome), updateAttrib padapter junk pkt pattrib = some a →
    rtwXmitframeCoalesce padapter pkt ⟨a, m⟩ = some o → o.ret = true →
    LayoutAgrees o.padapter o.pxmitframe.attrib o.mpdus := by
  intro h
  obtain ⟨a, o, ha, hrun, hret, henc, hfit⟩ := wepStation_sends fun _ => 0
  have hof := updateAttrib_spec _ _ _ _ _ ha
  obtain ⟨psta, d, s, f, hsent⟩ := coalesce_sent hof hrun hret
  obtain hone | ⟨hc, -, -⟩ := (hsent.agrees_iff hof).mp (h _ _ _ _ _ _ _ ha hrun hret)
  · have hlen : (zeroEth 400 (by decide)).payload.length = 400 := List.length_replicate
    rw [hlen] at hone
    exact hfit hone
  · exact hc (.inl henc)

end Rtl8723au
