import Rtl8723au.Ieee80211.SetIe
import Rtl8723au.Mlme.JoinBssWmm

/-! What `rtw_restructure_ht_ie` adds to `sec_bss`, and what `check_assoc_AP` reads. -/
namespace Rtl8723au
namespace JoinBss
open AccessM Regions Tlv Security Mem
set_option autoImplicit false

/-! ## The search for an element -/

section
variable {n inLen : ℕ} {ies : Mem} {t : Regions JoinRegion} {es : List Tlv}

def getIe (index : UInt8) (inLen : ℕ) : W (Option (ℤ × ℕ)) :=
  zoom (region .ies) (rtwGetIe _FIXED_IE_LENGTH_ index ((inLen : ℤ) - _FIXED_IE_LENGTH_))

/-- The place of the first element with the identifier. -/
def IsFirst (ies : Mem) (inLen : ℕ) (es : List Tlv) (index : UInt8) : Option (ℤ × ℕ) → Prop
  | none => es.find? (·.id == index) = none
  | some (p, len) => ∃ e, es.find? (·.id == index) = some e ∧ len = e.body.length ∧ bytesAt ies (p + 2) len = e.body ∧
      0 ≤ p ∧ p + 2 + len ≤ inLen

theorem gives_getIe (index : UInt8) (h : t .ies = ies) (hbytes : bytesAt ies _FIXED_IE_LENGTH_ (encodeAll es).length = encodeAll es)
    (hlen : inLen = _FIXED_IE_LENGTH_ + (encodeAll es).length) (hroom : inLen ≤ n) :
    Gives (Fits (size n)) (getIe index inLen) t fun found u => IsFirst ies inLen es index found ∧ u = t := by
  have hlimit : (inLen : ℤ) - _FIXED_IE_LENGTH_ = (encodeAll es).length := by omega
  have hies : (region JoinRegion.ies).get t = ies := h
  refine ⟨?_, ?_, ?_⟩
  · rw [getIe, hlimit, inside_zoom, hies]
    intro x hx
    have hx := inside_rtwGetIe hbytes x hx
    show 0 ≤ x ∧ x < (n : ℕ)
    omega
  · rw [getIe, hlimit, zoom_val, hies]
    cases hfind : es.find? (·.id == index) with
    | none =>
      rw [rtwGetIe_none hbytes fun x hx => by simpa using List.find?_eq_none.mp hfind x hx]
      exact hfind
    | some e =>
      obtain ⟨hid, pre, post, hes, hpre⟩ := List.find?_eq_some_iff_append.mp hfind
      have hid : e.id = index := by simpa using hid
      have hfound := rtwGetIe_found hbytes hes fun x hx => by
        rw [hid]
        simpa using hpre x hx
      rw [hid] at hfound
      rw [hfound]
      have hsplit : (encodeAll es).length = (encodeAll pre).length + (e.size + (encodeAll post).length) := by
        rw [hes, encodeAll_append, encodeAll_cons, List.length_append, List.length_append, encode_length]
      have hsize : e.size = e.body.length + 2 := rfl
      exact ⟨e, hfind, rfl, Ieee80211.body_at (Ieee80211.encoding_behind (hes ▸ hbytes)), by omega, by omega⟩
  · rw [getIe, zoom_st, rtwGetIe_st]
    exact Function.update_eq_self _ t

end

/-! ## The elements for HT -/

/-- The WMM element that is put in when there is none. -/
def htWmm : Tlv := ⟨_VENDOR_SPECIFIC_IE_, WMM_OUI ++ [0, 1, 0], by decide⟩

/-- The information of the network, if it has the right size. -/
def htInfo (es : List Tlv) : List Tlv :=
  (es.find? (·.id == _HT_ADD_INFO_IE_)).toList.filter fun e => e.body.length == sizeofHtAddtInfo

/-- What is added, with a WMM element or not. -/
def htPart (a : JoinBssInfo) (es : List Tlv) (qosOption : Bool) : List Tlv :=
  if htUsed a es then (if qosOption then [] else [htWmm]) ++ htElements a es else []

theorem htElements_of_used {a : JoinBssInfo} {es : List Tlv} (h : htUsed a es = true) :
    htElements a es = htCapElement a :: htInfo es := by
  rw [htElements, if_pos h, htInfo]

section
variable {a : JoinBssInfo} {n inLen : ℕ} {ies : Mem} {t : Regions JoinRegion} {es : List Tlv} {l : List UInt8} {k : ℕ}

theorem gives_setHtWmm (qosOption : Bool) (h : Built ies l t) (hk : k = l.length) (hfit : l.length + 9 ≤ MAX_IE_SZ) :
    Gives (Fits (size n)) (setHtWmm qosOption k) t fun len u =>
      Built ies (l ++ encodeAll (if qosOption then [] else [htWmm])) u ∧
        len = (l ++ encodeAll (if qosOption then [] else [htWmm])).length := by
  rw [setHtWmm]
  refine .ite (fun hqos => .pure ?_) fun hqos => ?_
  · rw [if_pos hqos, encodeAll_nil, List.append_nil]
    exact ⟨h, hk⟩
  · rw [if_neg hqos, encodeAll_cons, encodeAll_nil, List.append_nil]
    refine (h.setIe htWmm hk hfit).mono fun len u hu => ⟨hu.1, ?_⟩
    rw [hu.2, List.length_append, encode_length, hk]

variable (hbytes : bytesAt ies _FIXED_IE_LENGTH_ (encodeAll es).length = encodeAll es)
  (hlen : inLen = _FIXED_IE_LENGTH_ + (encodeAll es).length) (hroom : inLen ≤ n)
include hbytes hlen hroom

theorem gives_setHtInfo (h : Built ies l t) (hk : k = l.length) (hfit : l.length + 24 ≤ MAX_IE_SZ) :
    Gives (Fits (size n)) (setHtInfo inLen k) t fun len u =>
      Built ies (l ++ encodeAll (htInfo es)) u ∧ len = (l ++ encodeAll (htInfo es)).length := by
  refine (gives_getIe _HT_ADD_INFO_IE_ h.ies hbytes hlen hroom).bind fun found u hu => ?_
  obtain ⟨hfirst, rfl⟩ := hu
  cases found with
  | none =>
    refine .pure ?_
    rw [htInfo, show es.find? (·.id == _HT_ADD_INFO_IE_) = none from hfirst, Option.toList_none, List.filter_nil, encodeAll_nil,
      List.append_nil]
    exact ⟨h, hk⟩
  | some place =>
    obtain ⟨p, len⟩ := place
    obtain ⟨e, hfind, rfl, hbody, hp, hend⟩ := hfirst
    have hid : e.id = _HT_ADD_INFO_IE_ := by simpa using List.find?_some hfind
    rw [htInfo, hfind, Option.toList_some]
    refine .ite (fun hsize => ?_) fun hsize => ?_
    · have hkept : [e].filter (fun e => e.body.length == sizeofHtAddtInfo) = [e] := by
        rw [List.filter_singleton, beq_iff_eq.mpr hsize, cond_true]
      have hload : Gives (Fits (size n)) (load .ies (p + 2) e.body.length) u fun x v => x = e.body ∧ v = u := by
        refine ⟨(inside_load (size n) .ies (p + 2) e.body.length u).mpr (.inr ⟨by omega, ?_⟩), ?_, rfl⟩
        · show p + 2 + (e.body.length : ℕ) ≤ (n : ℕ)
          omega
        · rw [load_val, h.ies]
          exact hbody
      rw [hkept, encodeAll_cons, encodeAll_nil, List.append_nil]
      refine hload.bind fun x v hx => ?_
      obtain ⟨rfl, rfl⟩ := hx
      rw [← hid]
      have hwhole : e.size = 24 := by rw [Tlv.size, hsize]; rfl
      refine (h.setIe e hk (by omega)).mono fun len u hu => ⟨hu.1, ?_⟩
      rw [hu.2, List.length_append, encode_length, hk]
    · have hdropped : [e].filter (fun e => e.body.length == sizeofHtAddtInfo) = [] := by
        rw [List.filter_singleton, beq_eq_false_iff_ne.mpr hsize, cond_false]
      rw [hdropped, encodeAll_nil, List.append_nil]
      exact .pure ⟨h, hk⟩

/-- `rtw_restructure_ht_ie` adds the elements for HT, if it is used. -/
theorem gives_restructureHt (qosOption : Bool) (h : Built ies l t) (hk : htUsed a es = true → k = l.length)
    (hfit : l.length + 61 ≤ MAX_IE_SZ) :
    Gives (Fits (size n)) (restructureHt a inLen qosOption k) t fun r u =>
      Built ies (l ++ encodeAll (htPart a es qosOption)) u ∧ r.2 = htUsed a es ∧
        r.1 = (if htUsed a es then (l ++ encodeAll (htPart a es qosOption)).length else k) := by
  have hunused : ¬htUsed a es = true → Gives (Fits (size n)) (pure (k, false)) t fun r u =>
      Built ies (l ++ encodeAll (htPart a es qosOption)) u ∧ r.2 = htUsed a es ∧
        r.1 = (if htUsed a es then (l ++ encodeAll (htPart a es qosOption)).length else k) := by
    intro hnot
    rw [htPart, if_neg hnot, if_neg hnot, encodeAll_nil, List.append_nil]
    exact .pure ⟨h, (Bool.not_eq_true _ ▸ hnot).symm, rfl⟩
  rw [restructureHt]
  refine .ite (fun hallowed => ?_) fun hallowed => hunused fun hused => hallowed (Bool.and_eq_true_iff.mp hused).1
  refine (gives_getIe _HT_CAPABILITY_IE_ h.ies hbytes hlen hroom).bind fun found u hu => ?_
  obtain ⟨hfirst, rfl⟩ := hu
  cases found with
  | none =>
    refine hunused fun hused => ?_
    rw [htUsed, show es.find? (·.id == _HT_CAPABILITY_IE_) = none from hfirst] at hused
    simp at hused
  | some place =>
    obtain ⟨p, len⟩ := place
    obtain ⟨e, hfind, rfl, -⟩ := hfirst
    refine .ite (fun hpos => ?_) fun hpos => hunused fun hused => ?_
    · have hused : htUsed a es = true := by
        rw [htUsed, hfind, hallowed, Bool.true_and, Option.any_some]
        simp [List.length_pos_iff.mp hpos]
      have hk := hk hused
      rw [hused]
      refine (gives_setHtWmm qosOption h hk (by omega)).bind fun outLen v hv => ?_
      obtain ⟨hv, rfl⟩ := hv
      have hshort : (encodeAll (if qosOption then [] else [htWmm])).length ≤ 9 := by
        split
        · exact Nat.zero_le _
        · rfl
      have hcap : (htCapElement a).size = 28 := by rw [Tlv.size, htCapElement, length_htCapie]
      refine (hv.setIe (htCapElement a) rfl (by rw [List.length_append]; omega)).bind fun outLen w hw => ?_
      obtain ⟨hw, rfl⟩ := hw
      refine (gives_setHtInfo hbytes hlen hroom hw
        (by rw [List.length_append, List.length_append, encode_length, List.length_append])
        (by rw [List.length_append, List.length_append, encode_length]; omega)).bind fun outLen x hx => ?_
      have hparts : l ++ encodeAll (if qosOption then [] else [htWmm]) ++ (htCapElement a).encode ++ encodeAll (htInfo es) =
          l ++ encodeAll (htPart a es qosOption) := by
        rw [htPart, if_pos hused, htElements_of_used hused, encodeAll_append, encodeAll_cons, List.append_assoc, List.append_assoc]
      rw [hparts] at hx
      exact .pure ⟨hx.1, rfl, hx.2⟩
    · rw [htUsed, hfind, Option.any_some, List.length_pos_iff.not_left.mp hpos] at hused
      simp at hused

end

/-! ## The vendor of the access point -/

/-- The `switch`, told with the bytes. -/
def apLook (m : Mem) (i : ℕ) (flags : VendorFlags) : HtIotPeer ⊕ VendorFlags :=
  if m (i : ℕ) = _VENDOR_SPECIFIC_IE_ then flags.look (apOui (bytesAt m ((i + 2 : ℕ) : ℤ) 3)) else .inr flags

/-- Three bytes of every vendor specific element that is looked at are among the first `n`. -/
def ApRoom (n : ℕ) (m : Mem) : ℕ → VendorFlags → List Tlv → Prop
  | _, _, [] => True
  | i, flags, e :: rest =>
    (e.id = _VENDOR_SPECIFIC_IE_ → i + 5 ≤ n) ∧
      ∀ flags', apLook m i flags = .inr flags' → ApRoom n m (i + e.size) flags' rest

section
variable {n inLen : ℕ} {s : Regions JoinRegion}

theorem apAt_val (flags : VendorFlags) (i : ℕ) : ((apAt flags i).run s).val = apLook (s .ies) i flags := by
  rw [apAt, bind_val, peek_val, peek_st, ite_run, apLook]
  split
  next hid => exact (if_pos hid).symm
  next hid => exact (if_neg hid).symm

theorem apAt_st (flags : VendorFlags) (i : ℕ) : ((apAt flags i).run s).st = s := by
  rw [apAt, bind_st, peek_val, peek_st, ite_run]
  split <;> rfl

theorem inside_apAt (flags : VendorFlags) (i : ℕ) : Inside (Fits (size n)) (apAt flags i) s ↔
    i < n ∧ (s .ies (i : ℕ) = _VENDOR_SPECIFIC_IE_ → i + 5 ≤ n) := by
  rw [apAt, inside_bind, inside_peek_ies, inside_ite, peek_val, peek_st]
  refine and_congr_right fun _ => ?_
  split
  next hid =>
    have hload : Inside (Fits (size n)) (load .ies (i + 2 : ℕ) 3) s ↔ i + 5 ≤ n := by
      rw [inside_load]
      show 3 = 0 ∨ 0 ≤ ((i + 2 : ℕ) : ℤ) ∧ ((i + 2 : ℕ) : ℤ) + (3 : ℕ) ≤ (n : ℕ) ↔ _
      omega
    rw [inside_bind, hload]
    exact ⟨fun h _ => h.1, fun h => ⟨h hid, inside_pure _ _ _⟩⟩
  next hid => exact iff_of_true (inside_pure _ _ _) fun h => absurd h hid

theorem apLoop_st (fuel i : ℕ) (flags : VendorFlags) : ((apLoop inLen fuel i flags).run s).st = s := by
  induction fuel generalizing i flags with
  | zero => rfl
  | succ fuel ih =>
    rw [apLoop]
    split
    · rw [bind_st, apAt_st]
      split
      · rfl
      · rw [bind_st, peek_st]
        exact ih _ _
    · rfl

theorem inside_apLoop (es : List Tlv) (fuel i : ℕ) (flags : VendorFlags) (hfuel : es.length ≤ fuel)
    (hbytes : bytesAt (s .ies) (i : ℕ) (encodeAll es).length = encodeAll es) (hlen : inLen = i + (encodeAll es).length)
    (hroom : inLen ≤ n) :
    Inside (Fits (size n)) (apLoop inLen fuel i flags) s ↔ ApRoom n (s .ies) i flags es := by
  induction es generalizing fuel i flags with
  | nil =>
    rw [encodeAll_nil, List.length_nil] at hlen
    have hend : apLoop inLen fuel i flags = pure flags.result := by
      cases fuel with
      | zero => rfl
      | succ fuel => rw [apLoop, if_neg (by omega)]
    rw [hend]
    exact iff_of_true (inside_pure _ _ _) trivial
  | cons e rest ih =>
    obtain ⟨fuel, rfl⟩ : ∃ n, fuel = n + 1 := ⟨fuel - 1, by rw [List.length_cons] at hfuel; omega⟩
    rw [encodeAll_cons] at hbytes
    obtain ⟨hid, hcount, hrest⟩ := encode_at hbytes
    have hsize : e.size = e.body.length + 2 := rfl
    rw [encodeAll_cons, List.length_append, encode_length] at hlen
    have hplace : (i : ℤ) + e.size = ((i + e.size : ℕ) : ℤ) := by push_cast; rfl
    rw [hplace] at hrest
    rw [apLoop, if_pos (by omega), inside_bind, inside_apAt, hid, ApRoom, apAt_st, apAt_val,
      and_iff_right (show i < n by omega)]
    refine and_congr_right fun _ => ?_
    cases hlook : apLook (s .ies) i flags with
    | inl peer => exact iff_of_true (inside_pure _ _ _) fun _ hinr => absurd hinr Sum.inl_ne_inr
    | inr flags' =>
      have hpeek : ((peek (region .ies) (i + 1 : ℕ)).run s).val.toNat + 2 = e.size := by
        rw [peek_val, hsize, ← hcount]
        push_cast
        rfl
      have hnext := ih fuel (i + e.size) flags' (by rw [List.length_cons] at hfuel; omega) hrest (by omega)
      dsimp only
      rw [inside_bind, inside_peek_ies, peek_st, hpeek, and_iff_right (show i + 1 < n by omega), hnext]
      exact ⟨fun h flags'' heq => Sum.inr.inj heq ▸ h, fun h => h flags' rfl⟩

end

end JoinBss

end Rtl8723au
