import Rtl8723au.Ap.Beacon

/-! `update_BCNTIM` of `core/rtw_ap.c`: the TIM element of the beacon is replaced in place, or put in behind
the DS element. -/
namespace Rtl8723au
open Mem Security Tlv
set_option autoImplicit false

/-! ## The element -/

/-- The body needs the octet of the identifiers 8 to 15 as well. -/
def TimWide (timBitmap : BitVec 16) : Prop := timBitmap &&& 0xff00 ≠ 0 ∧ timBitmap &&& 0x00fc ≠ 0

instance (timBitmap : BitVec 16) : Decidable (TimWide timBitmap) := inferInstanceAs (Decidable (_ ∧ _))

/-- The byte `k` of `cpu_to_le16(tim_bitmap)`. -/
def timOctet (timBitmap : BitVec 16) (k : ℕ) : UInt8 := .ofBitVec (timBitmap.extractLsb' (8 * k) 8)

/-- DTIM count, DTIM period, bitmap control and partial virtual bitmap. -/
def timBody (timBitmap : BitVec 16) : List UInt8 :=
  [0, 1, if timBitmap &&& 1 ≠ 0 then 1 else 0] ++
    if TimWide timBitmap then [timOctet timBitmap 0, timOctet timBitmap 1] else [timOctet timBitmap 0]

def timIe (timBitmap : BitVec 16) : List UInt8 :=
  _TIM_IE_ :: (if TimWide timBitmap then 5 else 4) :: timBody timBitmap

/-! ## The splice -/

/-- Where the element goes, `dst_ie`, and where the rest of the beacon starts, `premainder_ie`. -/
def timPlace (pnetwork : BcnNetwork) : ℤ × ℤ :=
  let limit : ℤ := pnetwork.ieLength - _FIXED_IE_LENGTH_
  let getIe (index : UInt8) := ((rtwGetIe _FIXED_IE_LENGTH_ index limit).run pnetwork.ies).val
  let ieSize (index : UInt8) : ℤ := match getIe index with
    | some (_, len) => len + 2
    | none => 0
  let offset := _FIXED_IE_LENGTH_ + ieSize _SSID_IE_ + ieSize _SUPPORTEDRATES_IE_ + 3
  match getIe _TIM_IE_ with
  | some (p, timIelen) => if 0 < timIelen then (p, p + (timIelen + 2)) else (offset, offset)
  | none => (offset, offset)

/-- `update_BCNTIM`; `rtwMalloc` tells whether there is memory for so many bytes. -/
def updateBcntim (rtwMalloc : ℕ → Bool) (timBitmap : BitVec 16) (pnetwork : BcnNetwork) : BcnNetwork :=
  let (dstIe, premainderIe) := timPlace pnetwork
  let remainderIelen := uint (pnetwork.ieLength - premainderIe)
  let backup := bytesAt pnetwork.ies premainderIe remainderIelen
  let ies := putBytes pnetwork.ies dstIe (timIe timBitmap)
  let dstIe := dstIe + (timIe timBitmap).length
  { ies := if 0 < remainderIelen ∧ rtwMalloc remainderIelen then putBytes ies dstIe backup else ies
    ieLength := uint (dstIe + remainderIelen) }

/-! ## What is written -/

def timElement (timBitmap : BitVec 16) : Tlv where
  id := _TIM_IE_
  body := timBody timBitmap
  short := by
    unfold timBody
    by_cases h : TimWide timBitmap <;> simp [h]

theorem timElement_encode (timBitmap : BitVec 16) : (timElement timBitmap).encode = timIe timBitmap := by
  unfold encode timElement timIe timBody
  by_cases h : TimWide timBitmap
  · simp only [if_pos h]
    rfl
  · simp only [if_neg h]
    rfl

theorem timIe_length (timBitmap : BitVec 16) : (timIe timBitmap).length = if TimWide timBitmap then 7 else 6 := by
  unfold timIe timBody
  split <;> rfl

section Splice
variable {rtwMalloc : ℕ → Bool} (timBitmap : BitVec 16) {pnetwork : BcnNetwork} {before old after : List UInt8}

/-- **The element takes the place of the bytes it was put over**, and the rest of the beacon follows. -/
theorem updateBcntim_bytes (halloc : ∀ n ≤ MAX_IE_SZ, rtwMalloc n = true) (hfits : pnetwork.ieLength ≤ MAX_IE_SZ)
    (hbytes : bytesAt pnetwork.ies 0 pnetwork.ieLength = before ++ old ++ after)
    (hplace : timPlace pnetwork = ((before.length : ℤ), (before.length : ℤ) + old.length)) :
    bytesAt (updateBcntim rtwMalloc timBitmap pnetwork).ies 0 (updateBcntim rtwMalloc timBitmap pnetwork).ieLength =
        before ++ timIe timBitmap ++ after ∧
      (updateBcntim rtwMalloc timBitmap pnetwork).ieLength =
        before.length + (timIe timBitmap).length + after.length := by
  have hlen := congrArg List.length hbytes
  rw [bytesAt_length, List.length_append, List.length_append] at hlen
  have hmax : MAX_IE_SZ = 768 := rfl
  have htim : (timIe timBitmap).length ≤ 7 := by
    rw [timIe_length]
    split <;> omega
  have hremainder : uint ((pnetwork.ieLength : ℤ) - ((before.length : ℤ) + old.length)) = after.length := by
    have hsub : (pnetwork.ieLength : ℤ) - ((before.length : ℤ) + old.length) = (after.length : ℕ) := by omega
    rw [hsub, uint_natCast _ (by omega)]
  have hsplit := hbytes
  rw [hlen, bytesAt_add, bytesAt_add] at hsplit
  have hleft := List.append_inj_left hsplit (by simp [bytesAt_length])
  have hbackup := List.append_inj_right hsplit (by simp [bytesAt_length])
  have hbefore := List.append_inj_left hleft (bytesAt_length _)
  rw [zero_add, Nat.cast_add] at hbackup
  have hmem : (updateBcntim rtwMalloc timBitmap pnetwork).ies =
      putBytes pnetwork.ies before.length (timIe timBitmap ++ after) := by
    unfold updateBcntim
    rw [hplace]
    dsimp only
    rw [hremainder, hbackup, putBytes_append]
    by_cases hnil : after = []
    · rw [hnil, if_neg (by simp), List.append_nil]
    · rw [if_pos ⟨List.length_pos_of_ne_nil hnil, halloc _ (by omega)⟩]
  have hie : (updateBcntim rtwMalloc timBitmap pnetwork).ieLength =
      before.length + (timIe timBitmap).length + after.length := by
    unfold updateBcntim
    rw [hplace]
    dsimp only
    rw [hremainder]
    exact uint_natCast (before.length + (timIe timBitmap).length + after.length) (by omega)
  refine ⟨?_, hie⟩
  rw [hie, hmem, add_assoc, bytesAt_add, ← List.length_append, List.append_assoc]
  congr 1
  · refine (bytesAt_congr before.length fun k hk => ?_).trans hbefore
    exact putBytes_outside _ _ _ _ (.inl (by omega))
  · apply bytesAt_eq
    intro k hk
    rw [zero_add]
    exact putBytes_inside _ _ _ _ hk

end Splice

/-! ## Where -/

section Place
variable {fixed : List UInt8} {es : List Tlv} {pnetwork : BcnNetwork} (h : BcnOf fixed es pnetwork)
include h

theorem timPlace_present {pre post : List Tlv} {t : Tlv} (hes : es = pre ++ t :: post)
    (hpre : ∀ x ∈ pre, x.id ≠ _TIM_IE_) (ht : t.id = _TIM_IE_) (hbody : t.body ≠ []) :
    timPlace pnetwork = (((fixed ++ encodeAll pre).length : ℤ),
      ((fixed ++ encodeAll pre).length : ℤ) + t.encode.length) := by
  have hfound := rtwGetIe_found h.elements hes (ht ▸ hpre)
  rw [ht] at hfound
  unfold timPlace
  dsimp only
  rw [h.limit_eq, hfound]
  dsimp only
  rw [if_pos (List.length_pos_of_ne_nil hbody), List.length_append, h.fixedLength, encode_length, size]
  push_cast
  rfl

theorem timPlace_absent {ssid rates ds : Tlv} {post : List Tlv} (hes : es = ssid :: rates :: ds :: post)
    (hssid : ssid.id = _SSID_IE_) (hrates : rates.id = _SUPPORTEDRATES_IE_) (hds : ds.body.length = 1)
    (hnone : ∀ x ∈ es, x.id ≠ _TIM_IE_) :
    timPlace pnetwork = (((fixed ++ encodeAll [ssid, rates, ds]).length : ℤ),
      ((fixed ++ encodeAll [ssid, rates, ds]).length : ℤ) + ([] : List UInt8).length) := by
  have htim := rtwGetIe_none h.elements hnone
  have hfirst : es = [] ++ ssid :: rates :: ds :: post := hes
  have hsecond : es = [ssid] ++ rates :: ds :: post := hes
  have hs := rtwGetIe_found h.elements hfirst fun x hx => absurd hx List.not_mem_nil
  have hr := rtwGetIe_found h.elements hsecond fun x hx => by
    rw [List.mem_singleton.mp hx, hssid, hrates]
    decide
  rw [hssid] at hs
  rw [hrates] at hr
  unfold timPlace
  dsimp only
  rw [h.limit_eq, htim, hs, hr]
  dsimp only
  rw [List.length_append, h.fixedLength]
  simp only [encodeAll_cons, encodeAll_nil, List.append_nil, List.length_append, encode_length, size, hds,
    List.length_nil, Nat.cast_zero, add_zero]
  push_cast
  ring_nf

end Place

/-! ## Reading the element -/

/-- The bit of a station in the body of a TIM element: the partial bitmap starts at the octet that the upper
seven bits of the bitmap control give, in pairs. -/
def timBit (body : List UInt8) (aid : ℕ) : Bool :=
  let first := 2 * ((body.getD 2 0).toNat / 2)
  decide (first ≤ aid / 8) && (body.getD (3 + (aid / 8 - first)) 0).toNat.testBit (aid % 8)

def timMulticast (body : List UInt8) : Bool := body.getD 2 0 &&& 1 != 0

section Read
variable (timBitmap : BitVec 16)

theorem timBody_control : (timBody timBitmap).getD 2 0 = if timBitmap &&& 1 ≠ 0 then 1 else 0 := rfl

theorem timBit_eq (aid : ℕ) :
    timBit (timBody timBitmap) aid = ((timBody timBitmap).getD (3 + aid / 8) 0).toNat.testBit (aid % 8) := by
  have hfirst : 2 * (((timBody timBitmap).getD 2 0).toNat / 2) = 0 := by
    rw [timBody_control]
    split <;> rfl
  unfold timBit
  rw [hfirst]
  simp

theorem timOctet_testBit (k j : ℕ) (hj : j < 8) :
    (timOctet timBitmap k).toNat.testBit j = timBitmap.getLsbD (8 * k + j) := by
  show (timBitmap.extractLsb' (8 * k) 8).toNat.testBit j = _
  rw [BitVec.testBit_toNat, BitVec.getLsbD_extractLsb', decide_eq_true hj, Bool.true_and]

theorem timBit_low (aid : ℕ) (h : aid < 8) : timBit (timBody timBitmap) aid = timBitmap.getLsbD aid := by
  have hoctet : (timBody timBitmap).getD 3 0 = timOctet timBitmap 0 := by
    unfold timBody
    by_cases h : TimWide timBitmap <;> simp [h]
  rw [timBit_eq, Nat.div_eq_of_lt h, Nat.mod_eq_of_lt h, Nat.add_zero, hoctet, timOctet_testBit _ _ _ h,
    Nat.mul_zero, Nat.zero_add]

theorem timBit_high (aid : ℕ) (h8 : 8 ≤ aid) (h : aid < 16) :
    timBit (timBody timBitmap) aid = (decide (TimWide timBitmap) && timBitmap.getLsbD aid) := by
  have hdiv : aid / 8 = 1 := by omega
  have hmod : aid % 8 < 8 := Nat.mod_lt _ (by norm_num)
  rw [timBit_eq, hdiv]
  by_cases hwide : TimWide timBitmap
  · have hoctet : (timBody timBitmap).getD (3 + 1) 0 = timOctet timBitmap 1 := by
      unfold timBody
      rw [if_pos hwide]
      rfl
    rw [hoctet, timOctet_testBit _ _ _ hmod, decide_eq_true hwide, Bool.true_and]
    congr 1
    omega
  · have hoctet : (timBody timBitmap).getD (3 + 1) 0 = 0 := by
      unfold timBody
      rw [if_neg hwide]
      rfl
    rw [hoctet, decide_eq_false hwide, Bool.false_and]
    exact Nat.zero_testBit _

theorem high_mask (i : ℕ) (hi : i < 16) : (0xff00 : BitVec 16).getLsbD i = decide (8 ≤ i) := by
  have h : ∀ i : Fin 16, (0xff00 : BitVec 16).getLsbD i = decide (8 ≤ (i : ℕ)) := by decide
  exact h ⟨i, hi⟩

theorem low_mask (i : ℕ) (hi : i < 16) : (1 : BitVec 16).getLsbD i = decide (i = 0) := by
  have h : ∀ i : Fin 16, (1 : BitVec 16).getLsbD i = decide ((i : ℕ) = 0) := by decide
  exact h ⟨i, hi⟩

theorem high_eq_zero_iff :
    timBitmap &&& 0xff00 = 0 ↔ ∀ aid, 8 ≤ aid → aid < 16 → timBitmap.getLsbD aid = false := by
  constructor
  · intro h aid h8 h16
    have hbit : (timBitmap &&& 0xff00).getLsbD aid = (0 : BitVec 16).getLsbD aid := by rw [h]
    rw [BitVec.getLsbD_and, high_mask aid h16, decide_eq_true h8, Bool.and_true] at hbit
    rw [hbit]
    exact BitVec.getLsbD_zero
  · intro h
    apply BitVec.eq_of_getLsbD_eq
    intro i hi
    rw [BitVec.getLsbD_and, high_mask i hi]
    by_cases h8 : 8 ≤ i
    · simp [h i h8 hi]
    · simp [h8]

theorem timMulticast_eq : timMulticast (timBody timBitmap) = timBitmap.getLsbD 0 := by
  have hone : timBitmap &&& 1 ≠ 0 ↔ timBitmap.getLsbD 0 = true := by
    rw [← Bool.not_eq_false, not_iff_not]
    constructor
    · intro h
      have hbit := congrArg (fun b => b.getLsbD 0) h
      simpa [BitVec.getLsbD_and] using hbit
    · intro h
      apply BitVec.eq_of_getLsbD_eq
      intro i hi
      rw [BitVec.getLsbD_and, low_mask i hi]
      by_cases h0 : i = 0
      · rw [h0, h, Bool.false_and]
        exact BitVec.getLsbD_zero.symm
      · simp [h0]
  unfold timMulticast
  rw [timBody_control]
  by_cases h : timBitmap &&& 1 ≠ 0
  · rw [if_pos h, hone.mp h]
    rfl
  · rw [if_neg h, Bool.eq_false_iff.mpr fun hbit => h (hone.mpr hbit)]
    rfl

/-- The bitmap is one that the element can tell. -/
def TimTold : Prop := timBitmap &&& 0xff00 = 0 ∨ timBitmap &&& 0x00fc ≠ 0

instance : Decidable (TimTold timBitmap) := inferInstanceAs (Decidable (_ ∨ _))

/-- **The element tells every station right** unless a bit of the second octet is set and none of the bits 2
to 7 is. -/
theorem timBit_iff :
    (∀ aid, 1 ≤ aid → aid ≤ 15 → timBit (timBody timBitmap) aid = timBitmap.getLsbD aid) ↔
      TimTold timBitmap := by
  constructor
  · intro h
    by_cases hwide : TimWide timBitmap
    · exact .inr hwide.2
    · refine .inl ((high_eq_zero_iff timBitmap).mpr fun aid h8 h16 => ?_)
      have haid := h aid (by omega) (by omega)
      rw [timBit_high _ _ h8 h16, decide_eq_false hwide, Bool.false_and] at haid
      exact haid.symm
  · intro h aid h1 h15
    by_cases h8 : 8 ≤ aid
    · rw [timBit_high _ _ h8 (by omega)]
      by_cases hhigh : timBitmap &&& 0xff00 = 0
      · rw [(high_eq_zero_iff timBitmap).mp hhigh aid h8 (by omega), Bool.and_false]
      · have hwide : TimWide timBitmap := ⟨hhigh, h.resolve_left hhigh⟩
        rw [decide_eq_true hwide, Bool.true_and]
    · exact timBit_low _ _ (by omega)

end Read

/-! ## The beacon stays well formed -/

def isTim (e : Tlv) : Bool := e.id == _TIM_IE_

/-- The beacons the update is for: with a TIM element, or one without that starts with the SSID, the rates and
a DS element of three bytes. -/
def TimBeacon (es : List Tlv) : Prop :=
  (∃ e ∈ es, isTim e = true) ∨
    (∀ e ∈ es, isTim e = false) ∧ ∃ ssid rates ds post, es = ssid :: rates :: ds :: post ∧
      ssid.id = _SSID_IE_ ∧ rates.id = _SUPPORTEDRATES_IE_ ∧ ds.id = _DSSET_IE_ ∧ ds.body.length = 1

/-- The fixed bytes and the other elements are as they were, and the one TIM element tells the bitmap. -/
def TimUpdated (timBitmap : BitVec 16) (fixed : List UInt8) (es : List Tlv) (pnetwork : BcnNetwork) : Prop :=
  ∃ es' tim, BcnOf fixed es' pnetwork ∧ es'.filter (!isTim ·) = es.filter (!isTim ·) ∧ es'.filter isTim = [tim] ∧
    (∀ aid, 1 ≤ aid → aid ≤ 15 → timBit tim.body aid = timBitmap.getLsbD aid) ∧
    timMulticast tim.body = timBitmap.getLsbD 0

/-- The bitmap can be told, the beacon had one TIM element at most, with a body, and there is room for the
new one. -/
structure TimGood (timBitmap : BitVec 16) (es : List Tlv) : Prop where
  told : TimTold timBitmap
  once : (es.filter isTim).length ≤ 1
  body : ∀ e ∈ es, isTim e = true → e.body ≠ []
  room : _FIXED_IE_LENGTH_ + (encodeAll (es.filter (!isTim ·))).length +
    (if timBitmap &&& 0xff00 = 0 then 6 else 7) ≤ MAX_IE_SZ

theorem TimTold.wide_iff {timBitmap : BitVec 16} (h : TimTold timBitmap) :
    TimWide timBitmap ↔ timBitmap &&& 0xff00 ≠ 0 := by
  constructor
  · exact fun hwide => hwide.1
  · exact fun hhigh => ⟨hhigh, h.resolve_left hhigh⟩

section List
variable {l : List Tlv}

theorem filter_isTim (h : ∀ e ∈ l, isTim e = false) : l.filter isTim = [] := by
  rw [List.filter_eq_nil_iff]
  intro e he
  rw [h e he]
  exact Bool.false_ne_true

theorem filter_not_isTim (h : ∀ e ∈ l, isTim e = false) : l.filter (!isTim ·) = l := by
  rw [List.filter_eq_self]
  intro e he
  rw [h e he]
  rfl

theorem isTim_timElement (timBitmap : BitVec 16) : isTim (timElement timBitmap) = true := rfl

end List

section Update
variable {rtwMalloc : ℕ → Bool} (timBitmap : BitVec 16) {fixed : List UInt8} {pnetwork : BcnNetwork}
  {es pre old post : List Tlv} (h : BcnOf fixed es pnetwork) (halloc : ∀ n ≤ MAX_IE_SZ, rtwMalloc n = true)
  (hes : es = pre ++ old ++ post)
  (hplace : timPlace pnetwork = (((fixed ++ encodeAll pre).length : ℤ),
    ((fixed ++ encodeAll pre).length : ℤ) + (encodeAll old).length))
include h halloc hes hplace

theorem updateBcntim_list :
    bytesAt (updateBcntim rtwMalloc timBitmap pnetwork).ies 0 (updateBcntim rtwMalloc timBitmap pnetwork).ieLength =
        fixed ++ encodeAll (pre ++ timElement timBitmap :: post) ∧
      (updateBcntim rtwMalloc timBitmap pnetwork).ieLength =
        _FIXED_IE_LENGTH_ + (encodeAll (pre ++ timElement timBitmap :: post)).length := by
  have hbytes : bytesAt pnetwork.ies 0 pnetwork.ieLength = fixed ++ encodeAll pre ++ encodeAll old ++ encodeAll post := by
    rw [h.bytes, hes, encodeAll_append, encodeAll_append, List.append_assoc, List.append_assoc, List.append_assoc]
  obtain ⟨hnew, hlen⟩ := updateBcntim_bytes timBitmap halloc h.fits hbytes hplace
  have hlist : encodeAll (pre ++ timElement timBitmap :: post) =
      encodeAll pre ++ (timIe timBitmap ++ encodeAll post) := by
    rw [encodeAll_append, encodeAll_cons, timElement_encode]
  constructor
  · rw [hnew, hlist, List.append_assoc, List.append_assoc]
  · rw [hlen, hlist, List.length_append, List.length_append, List.length_append, h.fixedLength]
    omega

/-- When nothing but a TIM element went, the update is right if the bitmap can be told, no TIM element is left
behind the new one, and the beacon still fits. -/
theorem updated_iff (hpre : ∀ e ∈ pre, isTim e = false) (hold : ∀ e ∈ old, isTim e = true) :
    TimUpdated timBitmap fixed es (updateBcntim rtwMalloc timBitmap pnetwork) ↔
      TimTold timBitmap ∧ (∀ e ∈ post, isTim e = false) ∧
        _FIXED_IE_LENGTH_ + (encodeAll (pre ++ timElement timBitmap :: post)).length ≤ MAX_IE_SZ := by
  obtain ⟨hbytes, hlen⟩ := updateBcntim_list timBitmap h halloc hes hplace
  have htims : (pre ++ timElement timBitmap :: post).filter isTim = timElement timBitmap :: post.filter isTim := by
    rw [List.filter_append, filter_isTim hpre, List.nil_append, List.filter_cons, if_pos (isTim_timElement _)]
  constructor
  · rintro ⟨es', tim, hof, -, hone, htold, -⟩
    have hsame := hof.bytes.symm.trans hbytes
    obtain rfl := encodeAll_injective (List.append_cancel_left hsame)
    rw [htims, List.cons.injEq] at hone
    obtain ⟨rfl, hpost⟩ := hone
    refine ⟨(timBit_iff timBitmap).mp htold, fun e he => ?_, hlen ▸ hof.fits⟩
    exact Bool.eq_false_iff.mpr (List.filter_eq_nil_iff.mp hpost e he)
  · rintro ⟨htold, hpost, hroom⟩
    refine ⟨_, timElement timBitmap, ⟨h.fixedLength, hbytes, hlen ▸ hroom⟩, ?_, ?_,
      (timBit_iff timBitmap).mpr htold, timMulticast_eq timBitmap⟩
    · have hnone : old.filter (!isTim ·) = [] := by
        rw [List.filter_eq_nil_iff]
        intro e he
        rw [hold e he]
        exact Bool.false_ne_true
      rw [hes, List.filter_append, List.filter_append, List.filter_append, hnone, List.append_nil, List.filter_cons,
        if_neg (by rw [isTim_timElement]; exact Bool.false_ne_true)]
    · rw [htims, filter_isTim hpost]

end Update

theorem timGood_iff (timBitmap : BitVec 16) {pre old post : List Tlv} (hpre : ∀ e ∈ pre, isTim e = false)
    (hold : ∀ e ∈ old, isTim e = true ∧ e.body ≠ []) (hone : old.length ≤ 1)
    (hnone : old = [] → ∀ e ∈ post, isTim e = false) :
    TimGood timBitmap (pre ++ old ++ post) ↔ TimTold timBitmap ∧ (∀ e ∈ post, isTim e = false) ∧
      _FIXED_IE_LENGTH_ + (encodeAll (pre ++ timElement timBitmap :: post)).length ≤ MAX_IE_SZ := by
  have htims : (pre ++ old ++ post).filter isTim = old ++ post.filter isTim := by
    rw [List.filter_append, List.filter_append, filter_isTim hpre, List.nil_append,
      List.filter_eq_self.mpr fun e he => (hold e he).1]
  have hroom : TimTold timBitmap → (∀ e ∈ post, isTim e = false) →
      (encodeAll (pre ++ timElement timBitmap :: post)).length =
        (encodeAll ((pre ++ old ++ post).filter (!isTim ·))).length +
          (if timBitmap &&& 0xff00 = 0 then 6 else 7) := by
    intro htold hpost
    have hothers : (pre ++ old ++ post).filter (!isTim ·) = pre ++ post := by
      rw [List.filter_append, List.filter_append, filter_not_isTim hpre, filter_not_isTim hpost]
      have hgone : old.filter (!isTim ·) = [] := by
        rw [List.filter_eq_nil_iff]
        intro e he
        rw [(hold e he).1]
        exact Bool.false_ne_true
      rw [hgone, List.append_nil]
    have hsize : (timIe timBitmap).length = if timBitmap &&& 0xff00 = 0 then 6 else 7 := by
      rw [timIe_length]
      by_cases hhigh : timBitmap &&& 0xff00 = 0
      · rw [if_neg fun hwide => hwide.1 hhigh, if_pos hhigh]
      · rw [if_pos (htold.wide_iff.mpr hhigh), if_neg hhigh]
    rw [hothers, encodeAll_append, encodeAll_append, encodeAll_cons, timElement_encode, List.length_append,
      List.length_append, List.length_append, hsize]
    omega
  constructor
  · intro hgood
    have hpost : ∀ e ∈ post, isTim e = false := by
      by_cases hempty : old = []
      · exact hnone hempty
      · have honce := hgood.once
        have hpos := List.length_pos_of_ne_nil hempty
        rw [htims, List.length_append] at honce
        have hnil : post.filter isTim = [] := List.eq_nil_of_length_eq_zero (by omega)
        exact fun e he => Bool.eq_false_iff.mpr (List.filter_eq_nil_iff.mp hnil e he)
    refine ⟨hgood.told, hpost, ?_⟩
    rw [hroom hgood.told hpost, ← add_assoc]
    exact hgood.room
  · rintro ⟨htold, hpost, hfits⟩
    refine ⟨htold, ?_, ?_, ?_⟩
    · rw [htims, filter_isTim hpost, List.append_nil]
      exact hone
    · intro e he htim
      rw [List.append_assoc, List.mem_append, List.mem_append] at he
      obtain he | he | he := he
      · rw [hpre e he] at htim
        cases htim
      · exact (hold e he).2
      · rw [hpost e he] at htim
        cases htim
    · rw [hroom htold hpost, ← add_assoc] at hfits
      exact hfits

section Tim
variable {rtwMalloc : ℕ → Bool} (timBitmap : BitVec 16) {fixed : List UInt8} {es : List Tlv}
  {pnetwork : BcnNetwork} (h : BcnOf fixed es pnetwork) (hbeacon : TimBeacon es)
  (halloc : ∀ n ≤ MAX_IE_SZ, rtwMalloc n = true)
include h hbeacon halloc

theorem timUpdated_iff (hfirst : ∀ e, es.find? isTim = some e → e.body ≠ []) :
    TimUpdated timBitmap fixed es (updateBcntim rtwMalloc timBitmap pnetwork) ↔ TimGood timBitmap es := by
  obtain htim | ⟨hnone, ssid, rates, ds, post, rfl, hssid, hrates, -, hds⟩ := hbeacon
  · obtain ⟨t, hfind⟩ := Option.isSome_iff_exists.mp (List.find?_isSome.mpr htim)
    obtain ⟨ht, pre, post, rfl, hpre⟩ := List.find?_eq_some_iff_append.mp hfind
    have hpre' : ∀ e ∈ pre, isTim e = false := fun e he => by simpa using hpre e he
    have hplace := timPlace_present h rfl (fun x hx hid => by simpa [isTim, hid] using hpre' x hx)
      (by simpa [isTim] using ht) (hfirst t hfind)
    have hes : pre ++ t :: post = pre ++ [t] ++ post := by rw [List.append_assoc, List.singleton_append]
    have hsingle : (t.encode.length : ℤ) = (encodeAll [t]).length := by
      rw [encodeAll_cons, encodeAll_nil, List.append_nil]
    rw [hsingle] at hplace
    rw [updated_iff timBitmap h halloc hes hplace hpre' (fun e he => List.mem_singleton.mp he ▸ ht), hes,
      timGood_iff timBitmap hpre' (fun e he => List.mem_singleton.mp he ▸ ⟨ht, hfirst t hfind⟩) le_rfl
        fun hnil => absurd hnil (List.cons_ne_nil _ _)]
  · have hplace := timPlace_absent h rfl hssid hrates hds fun x hx hid => by
      simpa [isTim, hid] using hnone x hx
    have hpre : ∀ e ∈ [ssid, rates, ds], isTim e = false := fun e he =>
      hnone e (List.mem_append_left post he)
    have hpost : ∀ e ∈ post, isTim e = false := fun e he => hnone e (List.mem_append_right [ssid, rates, ds] he)
    have hes : ssid :: rates :: ds :: post = [ssid, rates, ds] ++ [] ++ post := rfl
    rw [updated_iff timBitmap h halloc hes hplace hpre (fun e he => absurd he List.not_mem_nil), hes,
      timGood_iff timBitmap hpre (fun e he => absurd he List.not_mem_nil) (Nat.zero_le 1) fun _ => hpost]

end Tim

/-- **The TIM element tells the truth and the beacon stays well formed** when the bitmap can be told, the
beacon had one TIM element at most, with a body, and there is room; and, unless the first TIM element was
without a body, only then. -/
theorem updateBcntim_iff (rtwMalloc : ℕ → Bool) (timBitmap : BitVec 16) (fixed : List UInt8) (es : List Tlv)
    (pnetwork : BcnNetwork) (h : BcnOf fixed es pnetwork) (hbeacon : TimBeacon es)
    (halloc : ∀ n ≤ MAX_IE_SZ, rtwMalloc n = true) :
    (TimGood timBitmap es → TimUpdated timBitmap fixed es (updateBcntim rtwMalloc timBitmap pnetwork)) ∧
      ((∀ e, es.find? isTim = some e → e.body ≠ []) →
        TimUpdated timBitmap fixed es (updateBcntim rtwMalloc timBitmap pnetwork) → TimGood timBitmap es) := by
  constructor
  · intro hgood
    refine (timUpdated_iff timBitmap h hbeacon halloc fun e he => ?_).mpr hgood
    exact hgood.body e (List.mem_of_find?_eq_some he) (by simpa using List.find?_some he)
  · intro hfirst
    exact (timUpdated_iff timBitmap h hbeacon halloc hfirst).mp

/-! ## A small beacon -/

def sampleBeacon : List Tlv :=
  [⟨_SSID_IE_, [0x61, 0x70], by decide⟩, ⟨_SUPPORTEDRATES_IE_, [0x82, 0x84], by decide⟩,
    ⟨_DSSET_IE_, [6], by decide⟩]

def sampleNetwork : BcnNetwork where
  ies := putBytes (fun _ => 0) 0 (List.replicate 12 0 ++ encodeAll sampleBeacon)
  ieLength := 23

theorem sampleNetwork_of : BcnOf (List.replicate 12 0) sampleBeacon sampleNetwork where
  fixedLength := rfl
  bytes := by decide
  fits := by decide

theorem sampleBeacon_tim : TimBeacon sampleBeacon :=
  .inr ⟨by decide, _, _, _, [], rfl, rfl, rfl, rfl, rfl⟩

/-- The station with the identifier 1 is told. -/
theorem updateBcntim_first :
    TimUpdated 0x0002 (List.replicate 12 0) sampleBeacon (updateBcntim (fun _ => true) 0x0002 sampleNetwork) :=
  (updateBcntim_iff (fun _ => true) 0x0002 (List.replicate 12 0) sampleBeacon sampleNetwork sampleNetwork_of
    sampleBeacon_tim fun _ _ => rfl).1 ⟨by decide, by decide, by decide, by decide⟩

/-- The station with the identifier 8 alone is not. -/
theorem updateBcntim_lost : ¬ ∀ (rtwMalloc : ℕ → Bool) (timBitmap : BitVec 16) (fixed : List UInt8)
    (es : List Tlv) (pnetwork : BcnNetwork), BcnOf fixed es pnetwork → TimBeacon es →
    (∀ n ≤ MAX_IE_SZ, rtwMalloc n = true) →
    TimUpdated timBitmap fixed es (updateBcntim rtwMalloc timBitmap pnetwork) := by
  intro hall
  have hupdated := hall (fun _ => true) 0x0100 (List.replicate 12 0) sampleBeacon sampleNetwork sampleNetwork_of
    sampleBeacon_tim fun _ _ => rfl
  have hnone : ∀ e, sampleBeacon.find? isTim = some e → e.body ≠ [] := by
    intro e he
    cases he
  have hgood := (timUpdated_iff 0x0100 sampleNetwork_of sampleBeacon_tim (fun _ _ => rfl) hnone).mp hupdated
  exact absurd hgood.told (by decide)

end Rtl8723au
