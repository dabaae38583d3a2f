import Rtl8723au.Library.Tlv
import Rtl8723au.Include.Adapter
import Rtl8723au.Security.Arcfour

/-! The search for an element, `rtw_get_ie` of `core/rtw_ieee80211.c`, and the beacon an access point keeps
in `mlmext_info.network`. -/
namespace Rtl8723au
open Mem Security Tlv
set_option autoImplicit false

def _FIXED_IE_LENGTH_ : ℕ := 12
def MAX_IE_SZ : ℕ := 768

def _SSID_IE_ : UInt8 := 0
def _SUPPORTEDRATES_IE_ : UInt8 := 1
def _DSSET_IE_ : UInt8 := 3
def _TIM_IE_ : UInt8 := 5

/-! ## `rtw_get_ie` -/

/-- The loop of `rtw_get_ie` with `i` bytes behind it: where the element is and the length it gives. -/
def rtwGetIeLoop (pbuf : ℤ) (index : UInt8) (limit : ℤ) : ℕ → ℕ → M (Option (ℤ × ℕ))
  | 0, _ => pure none
  | fuel + 1, i => do
    let id ← read (pbuf + i)
    let tmp ← read (pbuf + i + 1)
    if id = index then pure (some (pbuf + i, tmp.toNat))
    else if limit ≤ i + (tmp.toNat + 2) then pure none
    else rtwGetIeLoop pbuf index limit fuel (i + (tmp.toNat + 2))

/-- `rtw_get_ie`; no pass of its loop goes on less than two bytes. -/
def rtwGetIe (pbuf : ℤ) (index : UInt8) (limit : ℤ) : M (Option (ℤ × ℕ)) :=
  if limit < 1 then pure none else rtwGetIeLoop pbuf index limit limit.toNat 0

section GetIe
variable {m : Mem} {pbuf : ℤ} {index : UInt8} {limit : ℤ}

theorem rtwGetIeLoop_succ (fuel i : ℕ) :
    ((rtwGetIeLoop pbuf index limit (fuel + 1) i).run m).val =
      if m (pbuf + i) = index then some (pbuf + i, (m (pbuf + i + 1)).toNat)
      else if limit ≤ i + ((m (pbuf + i + 1)).toNat + 2) then none
      else ((rtwGetIeLoop pbuf index limit fuel (i + ((m (pbuf + i + 1)).toNat + 2))).run m).val := by
  show ((if m (pbuf + i) = index then (pure (some (pbuf + i, (m (pbuf + i + 1)).toNat)) : M (Option (ℤ × ℕ)))
    else if limit ≤ i + ((m (pbuf + i + 1)).toNat + 2) then pure none
    else rtwGetIeLoop pbuf index limit fuel (i + ((m (pbuf + i + 1)).toNat + 2))).run m).val = _
  rw [AccessM.ite_run, apply_ite Outcome.val, AccessM.ite_run, apply_ite Outcome.val]
  rfl

theorem encode_at {e : Tlv} {rest : List UInt8} {p : ℤ}
    (h : bytesAt m p (e.encode ++ rest).length = e.encode ++ rest) :
    m p = e.id ∧ (m (p + 1)).toNat = e.body.length ∧ bytesAt m (p + e.size) rest.length = rest := by
  have hlen : 2 ≤ (e.encode ++ rest).length := by
    rw [List.length_append, encode_length, size]
    omega
  have hid := getD_bytesAt p h 0 (by omega)
  have hcount := getD_bytesAt p h 1 (by omega)
  rw [Nat.cast_zero, add_zero] at hid
  rw [Nat.cast_one] at hcount
  refine ⟨hid, ?_, ?_⟩
  · rw [hcount]
    exact toNat_length e
  · rw [List.length_append, bytesAt_add] at h
    have hrest := List.append_inj_right h (by rw [bytesAt_length])
    rw [encode_length] at hrest
    exact hrest

theorem length_le_encodeAll (es : List Tlv) : 2 * es.length ≤ (encodeAll es).length := by
  induction es with
  | nil => exact le_rfl
  | cons e rest ih =>
    rw [encodeAll_cons, List.length_append, encode_length, size, List.length_cons]
    omega

theorem rtwGetIeLoop_found {e : Tlv} {post : List Tlv} (he : e.id = index) (pre : List Tlv)
    (hpre : ∀ x ∈ pre, x.id ≠ index) (fuel i : ℕ) (hfuel : pre.length < fuel)
    (hlimit : (i : ℤ) + (encodeAll pre).length < limit)
    (h : bytesAt m (pbuf + i) (encodeAll (pre ++ e :: post)).length = encodeAll (pre ++ e :: post)) :
    ((rtwGetIeLoop pbuf index limit fuel i).run m).val =
      some (pbuf + (i + (encodeAll pre).length : ℕ), e.body.length) := by
  induction pre generalizing fuel i with
  | nil =>
    obtain ⟨fuel, rfl⟩ := Nat.exists_eq_succ_of_ne_zero (Nat.ne_of_gt hfuel)
    obtain ⟨hid, hlen, -⟩ := encode_at h
    rw [Nat.succ_eq_add_one, rtwGetIeLoop_succ, if_pos (hid.trans he), hlen]
    rfl
  | cons x pre ih =>
    obtain ⟨fuel, rfl⟩ := Nat.exists_eq_succ_of_ne_zero (Nat.ne_zero_of_lt hfuel)
    obtain ⟨hid, hlen, hrest⟩ := encode_at h
    have hx : x.id ≠ index := hpre x List.mem_cons_self
    rw [encodeAll_cons, List.length_append, encode_length, size] at hlimit
    push_cast at hlimit
    rw [Nat.succ_eq_add_one, rtwGetIeLoop_succ, hid, if_neg hx, hlen, if_neg (by omega)]
    have hplace : pbuf + i + (x.size : ℤ) = pbuf + (i + (x.body.length + 2) : ℕ) := by
      rw [size]
      push_cast
      ring
    rw [hplace] at hrest
    rw [List.length_cons] at hfuel
    rw [ih (fun y hy => hpre y (List.mem_cons_of_mem x hy)) fuel _ (by omega) (by push_cast; omega) hrest,
      encodeAll_cons, List.length_append, encode_length, size, add_assoc]

theorem rtwGetIeLoop_none (es : List Tlv) (hes : ∀ x ∈ es, x.id ≠ index) (fuel i : ℕ)
    (hlimit : limit ≤ i + (encodeAll es).length) (h : bytesAt m (pbuf + i) (encodeAll es).length = encodeAll es)
    (hi : (i : ℤ) < limit) : ((rtwGetIeLoop pbuf index limit fuel i).run m).val = none := by
  induction es generalizing fuel i with
  | nil =>
    rw [encodeAll_nil, List.length_nil] at hlimit
    push_cast at hlimit
    omega
  | cons x rest ih =>
    cases fuel with
    | zero => rfl
    | succ fuel =>
      obtain ⟨hid, hlen, hrest⟩ := encode_at h
      have hx : x.id ≠ index := hes x List.mem_cons_self
      rw [encodeAll_cons, List.length_append, encode_length, size] at hlimit
      push_cast at hlimit
      rw [rtwGetIeLoop_succ, hid, if_neg hx, hlen]
      split
      · rfl
      next hmore =>
        have hplace : pbuf + i + (x.size : ℤ) = pbuf + (i + (x.body.length + 2) : ℕ) := by
          rw [size]
          push_cast
          ring
        rw [hplace] at hrest
        exact ih (fun z hz => hes z (List.mem_cons_of_mem x hz)) fuel _ (by push_cast; omega) hrest (by push_cast; omega)

theorem rtwGetIeLoop_st (fuel i : ℕ) : ((rtwGetIeLoop pbuf index limit fuel i).run m).st = m := by
  induction fuel generalizing i with
  | zero => rfl
  | succ fuel ih =>
    show ((if m (pbuf + i) = index then (pure (some (pbuf + i, (m (pbuf + i + 1)).toNat)) : M (Option (ℤ × ℕ)))
      else if limit ≤ i + ((m (pbuf + i + 1)).toNat + 2) then pure none
      else rtwGetIeLoop pbuf index limit fuel (i + ((m (pbuf + i + 1)).toNat + 2))).run m).st = m
    split
    · rfl
    split
    · rfl
    · exact ih _

theorem rtwGetIe_st : ((rtwGetIe pbuf index limit).run m).st = m := by
  unfold rtwGetIe
  split
  · rfl
  · exact rtwGetIeLoop_st _ _

theorem inside_rtwGetIeLoop_succ (P : ℤ → Prop) (fuel i : ℕ) :
    AccessM.Inside P (rtwGetIeLoop pbuf index limit (fuel + 1) i) m ↔
      P (pbuf + i) ∧ P (pbuf + i + 1) ∧ (m (pbuf + i) ≠ index → ¬ limit ≤ i + ((m (pbuf + i + 1)).toNat + 2) →
        AccessM.Inside P (rtwGetIeLoop pbuf index limit fuel (i + ((m (pbuf + i + 1)).toNat + 2))) m) := by
  rw [rtwGetIeLoop, AccessM.inside_bind, AccessM.inside_bind, inside_read, inside_read, AccessM.inside_ite,
    AccessM.inside_ite]
  show _ ∧ _ ∧ (if m (pbuf + i) = index then _ else if limit ≤ i + ((m (pbuf + i + 1)).toNat + 2) then _ else _) ↔ _
  split
  · rename_i hid
    simp [hid]
  split
  · rename_i hid hlimit
    simp [hlimit]
  · rename_i hid hlimit
    simp only [ne_eq, hid, not_false_eq_true, hlimit, true_implies]
    rfl

theorem inside_rtwGetIeLoop (es : List Tlv) (fuel i : ℕ) (hlimit : limit = i + (encodeAll es).length)
    (h : bytesAt m (pbuf + i) (encodeAll es).length = encodeAll es) (hne : es ≠ []) :
    AccessM.Inside (fun x => pbuf ≤ x ∧ x < pbuf + limit) (rtwGetIeLoop pbuf index limit fuel i) m := by
  induction es generalizing fuel i with
  | nil => exact absurd rfl hne
  | cons x rest ih =>
    cases fuel with
    | zero => exact AccessM.inside_pure _ _ _
    | succ fuel =>
      obtain ⟨-, hlen, hrest⟩ := encode_at h
      rw [encodeAll_cons, List.length_append, encode_length, size] at hlimit
      push_cast at hlimit
      rw [inside_rtwGetIeLoop_succ, hlen]
      refine ⟨by omega, by omega, fun _ hmore => ?_⟩
      have hplace : pbuf + i + (x.size : ℤ) = pbuf + (i + (x.body.length + 2) : ℕ) := by
        rw [size]
        push_cast
        ring
      rw [hplace] at hrest
      refine ih fuel _ (by push_cast; omega) hrest ?_
      rintro rfl
      rw [encodeAll_nil, List.length_nil] at hlimit
      push_cast at hlimit
      omega

variable {es : List Tlv} (h : bytesAt m pbuf (encodeAll es).length = encodeAll es)
include h

theorem inside_rtwGetIe :
    AccessM.Inside (fun x => pbuf ≤ x ∧ x < pbuf + (encodeAll es).length)
      (rtwGetIe pbuf index (encodeAll es).length) m := by
  unfold rtwGetIe
  split
  · exact AccessM.inside_pure _ _ _
  · rename_i hpos
    rw [← add_zero pbuf, ← Nat.cast_zero] at h
    have hlimit : ((encodeAll es).length : ℤ) = ((0 : ℕ) : ℤ) + (encodeAll es).length := by omega
    refine inside_rtwGetIeLoop es _ 0 hlimit h ?_
    rintro rfl
    exact hpos (by norm_num)

theorem rtwGetIe_found_of_lt {e : Tlv} {pre post : List Tlv} (hes : es = pre ++ e :: post)
    (hpre : ∀ x ∈ pre, x.id ≠ e.id) (hlimit : ((encodeAll pre).length : ℤ) < limit) :
    ((rtwGetIe pbuf e.id limit).run m).val = some (pbuf + (encodeAll pre).length, e.body.length) := by
  have hcount := length_le_encodeAll pre
  rw [rtwGetIe, if_neg (by omega)]
  rw [← add_zero pbuf, ← Nat.cast_zero, hes] at h
  rw [rtwGetIeLoop_found rfl pre hpre _ 0 (by omega) (by omega) h, Nat.zero_add]

/-- **The first element of the name is found.** -/
theorem rtwGetIe_found {e : Tlv} {pre post : List Tlv} (hes : es = pre ++ e :: post)
    (hpre : ∀ x ∈ pre, x.id ≠ e.id) :
    ((rtwGetIe pbuf e.id (encodeAll es).length).run m).val =
      some (pbuf + (encodeAll pre).length, e.body.length) := by
  refine rtwGetIe_found_of_lt h hes hpre ?_
  rw [hes, encodeAll_append, encodeAll_cons, List.length_append, List.length_append, encode_length, size]
  omega

theorem rtwGetIe_none_of_le (hes : ∀ x ∈ es, x.id ≠ index) (hlimit : limit ≤ (encodeAll es).length) :
    ((rtwGetIe pbuf index limit).run m).val = none := by
  unfold rtwGetIe
  split
  · rfl
  · rename_i hpos
    rw [← add_zero pbuf, ← Nat.cast_zero] at h
    exact rtwGetIeLoop_none es hes _ 0 (by omega) h (by push_cast; omega)

/-- **No element of the name, nothing found.** -/
theorem rtwGetIe_none (hes : ∀ x ∈ es, x.id ≠ index) :
    ((rtwGetIe pbuf index (encodeAll es).length).run m).val = none := rtwGetIe_none_of_le h hes le_rfl

theorem rtwGetIe_cases (index : UInt8) :
    ((∀ x ∈ es, x.id ≠ index) ∧ ((rtwGetIe pbuf index (encodeAll es).length).run m).val = none) ∨
    ∃ pre e post, es = pre ++ e :: post ∧ e.id = index ∧
      ((rtwGetIe pbuf index (encodeAll es).length).run m).val = some (pbuf + (encodeAll pre).length, e.body.length) := by
  by_cases hnone : ∀ x ∈ es, x.id ≠ index
  · exact Or.inl ⟨hnone, rtwGetIe_none h hnone⟩
  · have hsome : (es.find? (·.id == index)).isSome := by
      rw [List.find?_isSome]
      push Not at hnone
      obtain ⟨x, hx, hid⟩ := hnone
      exact ⟨x, hx, by simpa using hid⟩
    obtain ⟨e, he⟩ := Option.isSome_iff_exists.mp hsome
    obtain ⟨hid, pre, post, hes, hpre⟩ := List.find?_eq_some_iff_append.mp he
    have hid : e.id = index := by simpa using hid
    have hfound := rtwGetIe_found h hes fun x hx => by
      rw [hid]
      simpa using hpre x hx
    rw [hid] at hfound
    exact Or.inr ⟨pre, e, post, hes, hid, hfound⟩

end GetIe

/-! ## The beacon -/

/-- The elements of `WLAN_BSSID_EX`, behind the twelve bytes of timestamp, interval and capability. -/
structure BcnNetwork where
  ies : Mem
  ieLength : ℕ

/-- The buffer holds the fixed bytes and an element list. -/
structure BcnOf (fixed : List UInt8) (es : List Tlv) (pnetwork : BcnNetwork) : Prop where
  fixedLength : fixed.length = _FIXED_IE_LENGTH_
  bytes : bytesAt pnetwork.ies 0 pnetwork.ieLength = fixed ++ encodeAll es
  fits : pnetwork.ieLength ≤ MAX_IE_SZ

namespace BcnOf
variable {fixed : List UInt8} {es : List Tlv} {pnetwork : BcnNetwork} (h : BcnOf fixed es pnetwork)
include h

theorem ieLength_eq : pnetwork.ieLength = _FIXED_IE_LENGTH_ + (encodeAll es).length := by
  have hlen := congrArg List.length h.bytes
  rw [bytesAt_length, List.length_append, h.fixedLength] at hlen
  exact hlen

theorem limit_eq : (pnetwork.ieLength : ℤ) - _FIXED_IE_LENGTH_ = (encodeAll es).length := by
  rw [h.ieLength_eq]
  push_cast
  ring

theorem elements : bytesAt pnetwork.ies _FIXED_IE_LENGTH_ (encodeAll es).length = encodeAll es := by
  have hbytes := h.bytes
  rw [h.ieLength_eq, bytesAt_add] at hbytes
  have hright := List.append_inj_right hbytes (by rw [bytesAt_length, h.fixedLength])
  rw [zero_add] at hright
  exact hright

end BcnOf

end Rtl8723au
