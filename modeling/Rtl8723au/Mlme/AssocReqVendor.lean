import Rtl8723au.Mlme.AssocReqParts

/-! The walk of `issue_assocreq` over the vendor specific elements. A WPS element whose length the walk changes
makes it go on inside another element; where no length changes, it visits the elements one by one. -/
namespace Rtl8723au
open Mem Security Tlv AccessM
set_option autoImplicit false

namespace AssocReq

variable {s : AssocReqMem} {wifiSpec : Bool}

def isOui (oui : List UInt8) : Bool := decide (oui = RTW_WPA_OUI ∨ oui = WMM_OUI ∨ oui = WPS_OUI)

def isVendorOui (e : Tlv) : Bool := e.id == _VENDOR_SPECIFIC_IE_ && isOui (e.body.take 4)

/-- Of a WPS element only the first 14 bytes are sent, unless the specification is followed. -/
def cut (wifiSpec : Bool) (e : Tlv) : Tlv :=
  if !wifiSpec ∧ e.body.take 4 = WPS_OUI then ⟨e.id, e.body.take 14, by rw [List.length_take]; omega⟩ else e

/-! ## One pass -/

/-- The elements after the length of a WPS element is set. -/
def marked (wifiSpec : Bool) (ies : Mem) (i : ℤ) : Mem :=
  if !wifiSpec ∧ bytesAt ies (i + 2) 4 = WPS_OUI then Function.update ies (i + 1) 14 else ies

theorem vendorAt_other {id : UInt8} {i : ℤ} (h : id = _VENDOR_SPECIFIC_IE_ → isOui (bytesAt s.ies (i + 2) 4) = false) :
    ((vendorAt wifiSpec id i).run s).val = false ∧ ((vendorAt wifiSpec id i).run s).st = s := by
  unfold vendorAt
  by_cases hid : id = _VENDOR_SPECIFIC_IE_
  · have houi : ¬ (bytesAt s.ies (i + 2) 4 = RTW_WPA_OUI ∨ bytesAt s.ies (i + 2) 4 = WMM_OUI ∨
        bytesAt s.ies (i + 2) 4 = WPS_OUI) := of_decide_eq_false (h hid)
    rw [if_pos hid, bind_val, bind_st, ite_run]
    rw [if_neg (show ¬ (((peekList iesPart (i + 2) 4).run s).val = RTW_WPA_OUI ∨
      ((peekList iesPart (i + 2) 4).run s).val = WMM_OUI ∨ ((peekList iesPart (i + 2) 4).run s).val = WPS_OUI) from houi)]
    exact ⟨rfl, rfl⟩
  · rw [if_neg hid]
    exact ⟨rfl, rfl⟩

theorem cutWps_st (s : AssocReqMem) (wifiSpec : Bool) (i : ℤ) :
    ((cutWps wifiSpec (bytesAt s.ies (i + 2) 4) i).run s).st = { s with ies := marked wifiSpec s.ies i } := by
  unfold marked cutWps
  rw [ite_run]
  split <;> rfl

theorem vendorAt_taken {i : ℤ} (houi : isOui (bytesAt s.ies (i + 2) 4) = true) :
    ((vendorAt wifiSpec _VENDOR_SPECIFIC_IE_ i).run s).val = false ∧
    ((vendorAt wifiSpec _VENDOR_SPECIFIC_IE_ i).run s).st =
      { s with
        ies := marked wifiSpec s.ies i
        pframe := s.pframe ++ _VENDOR_SPECIFIC_IE_ ::
          UInt8.ofNat (bytesAt (marked wifiSpec s.ies i) (i + 2) (marked wifiSpec s.ies i (i + 1)).toNat).length ::
          bytesAt (marked wifiSpec s.ies i) (i + 2) (marked wifiSpec s.ies i (i + 1)).toNat
        pktlen := s.pktlen +
          ((bytesAt (marked wifiSpec s.ies i) (i + 2) (marked wifiSpec s.ies i (i + 1)).toNat).length + 2) } := by
  have houi : bytesAt s.ies (i + 2) 4 = RTW_WPA_OUI ∨ bytesAt s.ies (i + 2) 4 = WMM_OUI ∨
      bytesAt s.ies (i + 2) 4 = WPS_OUI := of_decide_eq_true houi
  unfold vendorAt
  rw [if_pos rfl, bind_val, bind_st, ite_run]
  rw [if_pos (show (((peekList iesPart (i + 2) 4).run s).val = RTW_WPA_OUI ∨
    ((peekList iesPart (i + 2) 4).run s).val = WMM_OUI ∨ ((peekList iesPart (i + 2) 4).run s).val = WPS_OUI) from houi)]
  refine ⟨rfl, ?_⟩
  have hcut := cutWps_st s wifiSpec i
  rw [bind_st]
  show ((do
    let length ← peek iesPart (i + 1)
    rtwSetIe _VENDOR_SPECIFIC_IE_ (← peekList iesPart (i + 2) length.toNat)
    pure false : R Bool).run ((cutWps wifiSpec (bytesAt s.ies (i + 2) 4) i).run s).st).st = _
  rw [hcut]
  rfl

theorem inside_vendorAt {P : AssocReqAddr → Prop} {i : ℤ} (h : Inside P (vendorAt wifiSpec _VENDOR_SPECIFIC_IE_ i) s) :
    Inside P (peekList iesPart (i + 2) 4) s := by
  unfold vendorAt at h
  rw [if_pos rfl, inside_bind] at h
  exact h.1

theorem vendorAt_cases (s : AssocReqMem) (wifiSpec : Bool) (id : UInt8) (i : ℤ) :
    ((vendorAt wifiSpec id i).run s).st = s ∨
    (id = _VENDOR_SPECIFIC_IE_ ∧ isOui (bytesAt s.ies (i + 2) 4) = true) := by
  by_cases h : id = _VENDOR_SPECIFIC_IE_ ∧ isOui (bytesAt s.ies (i + 2) 4) = true
  · exact Or.inr h
  · exact Or.inl (vendorAt_other fun hid => by
      rw [← Bool.not_eq_true]
      exact fun houi => h ⟨hid, houi⟩).2

theorem vendorAt_val (s : AssocReqMem) (wifiSpec : Bool) (id : UInt8) (i : ℤ) : ((vendorAt wifiSpec id i).run s).val = false := by
  by_cases h : id = _VENDOR_SPECIFIC_IE_ ∧ isOui (bytesAt s.ies (i + 2) 4) = true
  · rw [h.1]
    exact (vendorAt_taken h.2).1
  · exact (vendorAt_other fun hid => by
      rw [← Bool.not_eq_true]
      exact fun houi => h ⟨hid, houi⟩).1

theorem vendorAt_adds (s : AssocReqMem) (wifiSpec : Bool) (id : UInt8) (i : ℤ) :
    ∃ l, Adds l s ((vendorAt wifiSpec id i).run s).st ∧ ∀ e ∈ l, e.id = _VENDOR_SPECIFIC_IE_ := by
  rcases vendorAt_cases s wifiSpec id i with hsame | ⟨hid, houi⟩
  · rw [hsame]
    exact ⟨[], .refl s, fun e he => absurd he List.not_mem_nil⟩
  · let body := bytesAt (marked wifiSpec s.ies i) (i + 2) (marked wifiSpec s.ies i (i + 1)).toNat
    have hshort : body.length < 256 := by
      rw [bytesAt_length]
      exact (marked wifiSpec s.ies i (i + 1)).toNat_lt
    have hadds : Adds [⟨_VENDOR_SPECIFIC_IE_, body, hshort⟩] s ((rtwSetIe _VENDOR_SPECIFIC_IE_ body).run s).st :=
      rtwSetIe_adds _
    rw [hid, (vendorAt_taken houi).2]
    refine ⟨_, ⟨hadds.pframe, hadds.pktlen⟩, ?_⟩
    intro e he
    rw [List.mem_singleton.mp he]

theorem vendorAt_before (s : AssocReqMem) (id : UInt8) {i x : ℤ} (hx : x ≤ i) :
    ((vendorAt wifiSpec id i).run s).st.ies x = s.ies x := by
  rcases vendorAt_cases s wifiSpec id i with hsame | ⟨hid, houi⟩
  · rw [hsame]
  · rw [hid, (vendorAt_taken houi).2]
    show marked wifiSpec s.ies i x = s.ies x
    unfold marked
    split
    · exact Function.update_of_ne (by omega) _ _
    · rfl

/-! ## The walk, wherever it goes -/

section Walk
variable {limit : ℤ}

theorem walk_vendor_pass {i : ℤ} (hi : i < limit) (fuel : ℕ) (s : AssocReqMem) :
    ((walk iesPart (vendorAt wifiSpec) limit (fuel + 1) i).run s).st =
      ((walk iesPart (vendorAt wifiSpec) limit fuel
        (i + (((vendorAt wifiSpec (s.ies i) i).run s).st.ies (i + 1)).toNat + 2)).run
          ((vendorAt wifiSpec (s.ies i) i).run s).st).st := by
  have hval := vendorAt_val s wifiSpec (s.ies i) i
  rw [walk_pass hi, bind_st, bind_st, peek_st, peek_val]
  show ((if ((vendorAt wifiSpec (s.ies i) i).run s).val then (pure true : R Bool) else _).run _).st = _
  rw [hval]
  rfl

theorem walk_vendor_adds (wifiSpec : Bool) (limit : ℤ) (fuel : ℕ) (i : ℤ) (s : AssocReqMem) :
    ∃ l, Adds l s ((walk iesPart (vendorAt wifiSpec) limit fuel i).run s).st ∧ ∀ e ∈ l, e.id = _VENDOR_SPECIFIC_IE_ := by
  induction fuel generalizing i s with
  | zero => exact ⟨[], .refl s, fun e he => absurd he List.not_mem_nil⟩
  | succ fuel ih =>
    by_cases hi : i < limit
    · rw [walk_vendor_pass hi]
      obtain ⟨l, hl, hids⟩ := vendorAt_adds s wifiSpec (s.ies i) i
      obtain ⟨l', hl', hids'⟩ := ih (i + (((vendorAt wifiSpec (s.ies i) i).run s).st.ies (i + 1)).toNat + 2)
        ((vendorAt wifiSpec (s.ies i) i).run s).st
      refine ⟨l ++ l', hl.trans hl', fun e he => ?_⟩
      rcases List.mem_append.mp he with h | h
      · exact hids e h
      · exact hids' e h
    · rw [walk_end (by omega)]
      exact ⟨[], .refl s, fun e he => absurd he List.not_mem_nil⟩

theorem walk_vendor_before (fuel : ℕ) (i x : ℤ) (hx : x ≤ i) (s : AssocReqMem) :
    ((walk iesPart (vendorAt wifiSpec) limit fuel i).run s).st.ies x = s.ies x := by
  induction fuel generalizing i s with
  | zero => rfl
  | succ fuel ih =>
    by_cases hi : i < limit
    · rw [walk_vendor_pass hi, ih _ (by omega), vendorAt_before s _ hx]
    · rw [walk_end (by omega)]
      rfl

end Walk

/-! ## The walk over the elements -/

section Body
variable {m : Mem} {e : Tlv} {rest : List UInt8} {i : ℤ}
  (h : bytesAt m i (e.encode ++ rest).length = e.encode ++ rest)
include h

theorem body_at : bytesAt m (i + 2) e.body.length = e.body := by
  have hsplit : e.encode ++ rest = [e.id, UInt8.ofNat e.body.length] ++ (e.body ++ rest) := rfl
  have hcount : (e.encode ++ rest).length = 2 + (e.body.length + rest.length) := by
    rw [List.length_append, encode_length, size]
    omega
  rw [hcount, bytesAt_add, bytesAt_add, hsplit] at h
  have hbody := (List.append_inj h (by rw [bytesAt_length]; rfl)).2
  exact List.append_inj_left hbody (by rw [bytesAt_length])

theorem oui_at (hlong : 4 ≤ e.body.length) : bytesAt m (i + 2) 4 = e.body.take 4 := by
  have hbody := body_at h
  rw [show e.body.length = 4 + (e.body.length - 4) by omega, bytesAt_add] at hbody
  rw [← hbody, List.take_left' (bytesAt_length 4)]

end Body

/-- Four bytes of each vendor specific element are in the record, and a WPS element that is cut has 14 bytes. -/
def VendorsFit (ies : Mem) (ieLength : ℕ) (wifiSpec : Bool) : ℤ → List Tlv → Prop
  | _, [] => True
  | i, e :: rest =>
    (e.id = _VENDOR_SPECIFIC_IE_ → i + 6 ≤ ieLength ∧
      (wifiSpec = false → bytesAt ies (i + 2) 4 = WPS_OUI → e.body.length = 14)) ∧
    VendorsFit ies ieLength wifiSpec (i + e.size) rest

theorem marked_eq {e : Tlv} {ies : Mem} {i : ℤ} (hcount : (ies (i + 1)).toNat = e.body.length)
    (hfit : wifiSpec = false → bytesAt ies (i + 2) 4 = WPS_OUI → e.body.length = 14) : marked wifiSpec ies i = ies := by
  unfold marked
  split
  · rename_i hwps
    have h14 : ies (i + 1) = 14 := by
      apply UInt8.toNat_inj.mp
      rw [hcount, hfit (by simpa using hwps.1) hwps.2]
      rfl
    rw [← h14, Function.update_eq_self]
  · rfl

section Fit
variable {ieLength : ℕ} {e : Tlv} {i : ℤ}

theorem inside_vendorAt_fit (hi : 0 ≤ i) (hcount : (s.ies (i + 1)).toNat = e.body.length)
    (hmarked : e.id = _VENDOR_SPECIFIC_IE_ → marked wifiSpec s.ies i = s.ies) (hroom : i + 2 + e.body.length ≤ ieLength)
    (hdata : e.id = _VENDOR_SPECIFIC_IE_ → i + 6 ≤ ieLength) :
    Inside (InBounds ieLength) (vendorAt wifiSpec e.id i) s := by
  have hlength : InBounds ieLength (.ies (i + 1)) := ⟨by omega, by omega⟩
  unfold vendorAt
  rw [inside_ite]
  split
  · rename_i hid
    have hfour := hdata hid
    rw [inside_bind, inside_ite]
    refine ⟨inside_ies_block (by omega) (by omega), ?_⟩
    split
    · rw [inside_bind, inside_bind, inside_bind, inside_bind]
      have hcut := cutWps_st s wifiSpec i
      rw [hmarked hid] at hcut
      refine ⟨?_, (inside_peek _ _ _ _).mpr hlength, ?_, inside_rtwSetIe _ _, inside_pure _ _ _⟩
      · unfold cutWps
        rw [inside_ite]
        split
        · exact (inside_poke _ _ _ _ _).mpr hlength
        · exact inside_pure _ _ _
      · rw [inside_peekList]
        intro k hk
        have hk : k < ((((cutWps wifiSpec (bytesAt s.ies (i + 2) 4) i).run s).st).ies (i + 1)).toNat := hk
        rw [hcut] at hk
        have hk : k < (s.ies (i + 1)).toNat := hk
        exact ⟨by omega, by omega⟩
    · exact inside_pure _ _ _
  · exact inside_pure _ _ _

theorem vendorAt_fit {rest : List UInt8} (hes : bytesAt s.ies i (e.encode ++ rest).length = e.encode ++ rest)
    (hcount : (s.ies (i + 1)).toNat = e.body.length)
    (hmarked : e.id = _VENDOR_SPECIFIC_IE_ → marked wifiSpec s.ies i = s.ies) :
    ((vendorAt wifiSpec e.id i).run s).st.ies = s.ies ∧
    ∃ l, Adds l s ((vendorAt wifiSpec e.id i).run s).st ∧ l.filter isVendorOui = [e].filter isVendorOui := by
  by_cases htaken : e.id = _VENDOR_SPECIFIC_IE_ ∧ isOui (bytesAt s.ies (i + 2) 4) = true
  · obtain ⟨hid, houi⟩ := htaken
    rw [hid, (vendorAt_taken houi).2, hmarked hid, hcount, body_at hes]
    have hadds := rtwSetIe_adds (s := s) e
    rw [hid] at hadds
    exact ⟨rfl, [e], ⟨hadds.pframe, hadds.pktlen⟩, rfl⟩
  · have hother : e.id = _VENDOR_SPECIFIC_IE_ → isOui (bytesAt s.ies (i + 2) 4) = false := by
      intro hid
      rw [← Bool.not_eq_true]
      exact fun houi => htaken ⟨hid, houi⟩
    rw [(vendorAt_other hother).2]
    refine ⟨rfl, [], .refl s, ?_⟩
    have hnot : isVendorOui e = false := by
      rw [← Bool.not_eq_true]
      intro hvendor
      unfold isVendorOui at hvendor
      rw [Bool.and_eq_true, beq_iff_eq] at hvendor
      have hlong : 4 ≤ e.body.length := by
        by_contra hshort
        have htake : (e.body.take 4).length < 4 := by
          rw [List.length_take]
          omega
        have houi : e.body.take 4 = RTW_WPA_OUI ∨ e.body.take 4 = WMM_OUI ∨ e.body.take 4 = WPS_OUI :=
          of_decide_eq_true hvendor.2
        rcases houi with h | h | h
        all_goals
          rw [h] at htake
          exact absurd htake (by decide)
      rw [← oui_at hes hlong] at hvendor
      exact htaken hvendor
    rw [List.filter_cons, hnot]
    rfl

end Fit

section Elements
variable {ieLength : ℕ}

theorem walk_vendor_fit (es : List Tlv) (fuel : ℕ) (i : ℤ) (s : AssocReqMem) (hfuel : es.length ≤ fuel) (hi : 0 ≤ i)
    (hlen : i + (encodeAll es).length = ieLength) (hes : bytesAt s.ies i (encodeAll es).length = encodeAll es)
    (hfit : VendorsFit s.ies ieLength wifiSpec i es) :
    ((walk iesPart (vendorAt wifiSpec) ieLength fuel i).run s).st.ies = s.ies ∧
    Inside (InBounds ieLength) (walk iesPart (vendorAt wifiSpec) ieLength fuel i) s ∧
    ∃ l, Adds l s ((walk iesPart (vendorAt wifiSpec) ieLength fuel i).run s).st ∧
      l.filter isVendorOui = es.filter isVendorOui := by
  induction es generalizing fuel i s with
  | nil =>
    rw [walk_end (by rw [encodeAll_nil, List.length_nil] at hlen; omega)]
    exact ⟨rfl, inside_pure _ _ _, [], .refl s, rfl⟩
  | cons e rest ih =>
    obtain ⟨fuel, rfl⟩ : ∃ n, fuel = n + 1 := ⟨fuel - 1, by rw [List.length_cons] at hfuel; omega⟩
    obtain ⟨hid, hcount, hrest⟩ := encode_at hes
    rw [encodeAll_cons, List.length_append, encode_length] at hlen
    push_cast at hlen
    have hsize : e.size = e.body.length + 2 := rfl
    have hlt : i < (ieLength : ℤ) := by omega
    obtain ⟨hhead, htail⟩ := hfit
    have hmarked : e.id = _VENDOR_SPECIFIC_IE_ → marked wifiSpec s.ies i = s.ies :=
      fun hvendor => marked_eq hcount (hhead hvendor).2
    obtain ⟨hies, l, hl, hfilter⟩ := vendorAt_fit hes hcount hmarked
    have hnext : (((visited (vendorAt wifiSpec) e i s).st.ies) (i + 1)).toNat = e.body.length := by
      rw [visited, hies]
      exact hcount
    obtain ⟨hies', hin', l', hl', hfilter'⟩ := ih fuel (i + e.size) (visited (vendorAt wifiSpec) e i s).st
      (by rw [List.length_cons] at hfuel; omega) (by omega) (by omega)
      (by rw [visited, hies]; exact hrest) (by rw [visited, hies]; exact htail)
    have hval : (visited (vendorAt wifiSpec) e i s).val = false := vendorAt_val s wifiSpec e.id i
    rw [(walk_next hlt hid hval hnext).2, inside_walk_next hlt hid hval hnext]
    refine ⟨hies'.trans hies, ⟨⟨hi, hlt⟩, ?_, ⟨by omega, by omega⟩, hin'⟩, l ++ l', hl.trans hl', ?_⟩
    · exact inside_vendorAt_fit hi hcount hmarked (by omega) fun h => (hhead h).1
    · rw [List.filter_append, hfilter, hfilter', ← List.filter_append]
      rfl

/-- A walk that stays in the record and changes no length has had elements that fit. -/
theorem vendorsFit_of_walk (es : List Tlv) (fuel : ℕ) (i : ℤ) (s : AssocReqMem) (hfuel : es.length ≤ fuel)
    (hlen : i + (encodeAll es).length = ieLength) (hes : bytesAt s.ies i (encodeAll es).length = encodeAll es)
    (hin : Inside (InBounds ieLength) (walk iesPart (vendorAt wifiSpec) ieLength fuel i) s)
    (hies : ((walk iesPart (vendorAt wifiSpec) ieLength fuel i).run s).st.ies = s.ies) :
    VendorsFit s.ies ieLength wifiSpec i es := by
  induction es generalizing fuel i s with
  | nil => trivial
  | cons e rest ih =>
    obtain ⟨fuel, rfl⟩ : ∃ n, fuel = n + 1 := ⟨fuel - 1, by rw [List.length_cons] at hfuel; omega⟩
    obtain ⟨hid, hcount, hrest⟩ := encode_at hes
    rw [encodeAll_cons, List.length_append, encode_length] at hlen
    push_cast at hlen
    have hsize : e.size = e.body.length + 2 := rfl
    have hlt : i < (ieLength : ℤ) := by omega
    have hval : (visited (vendorAt wifiSpec) e i s).val = false := vendorAt_val s wifiSpec e.id i
    have hid' : s.ies i = e.id := hid
    have hcut : e.id = _VENDOR_SPECIFIC_IE_ → wifiSpec = false → bytesAt s.ies (i + 2) 4 = WPS_OUI →
        e.body.length = 14 := by
      intro hvendor hspec hwps
      -- the length that was set is still there after the walk
      have hkept : ((walk iesPart (vendorAt wifiSpec) ieLength (fuel + 1) i).run s).st.ies (i + 1) = 14 := by
        rw [walk_vendor_pass hlt, walk_vendor_before fuel _ (i + 1) (by omega), hid', hvendor,
          (vendorAt_taken (by rw [hwps]; decide)).2]
        show marked wifiSpec s.ies i (i + 1) = 14
        rw [marked, if_pos ⟨by rw [hspec]; rfl, hwps⟩, Function.update_self]
      rw [hies] at hkept
      rw [← hcount, hkept]
      rfl
    have hmarked : e.id = _VENDOR_SPECIFIC_IE_ → marked wifiSpec s.ies i = s.ies :=
      fun hvendor => marked_eq hcount (hcut hvendor)
    have hsame := (vendorAt_fit hes hcount hmarked).1
    have hnext : (((visited (vendorAt wifiSpec) e i s).st.ies) (i + 1)).toNat = e.body.length := by
      rw [visited, hsame]
      exact hcount
    rw [inside_walk_next hlt hid hval hnext] at hin
    obtain ⟨-, hvisit, -, htail⟩ := hin
    rw [(walk_next hlt hid hval hnext).2] at hies
    have hfit := ih fuel (i + e.size) (visited (vendorAt wifiSpec) e i s).st
      (by rw [List.length_cons] at hfuel; omega) (by omega) (by rw [visited, hsame]; exact hrest) htail
      (by rw [hies, visited, hsame])
    rw [visited, hsame] at hfit
    refine ⟨fun hvendor => ⟨?_, hcut hvendor⟩, hfit⟩
    rw [hvendor] at hvisit
    have hfour := ies_block_le (by decide) (inside_vendorAt hvisit)
    omega

theorem cut_eq_of_fit (es : List Tlv) (ies : Mem) (i : ℤ) (hes : bytesAt ies i (encodeAll es).length = encodeAll es)
    (hfit : VendorsFit ies ieLength wifiSpec i es) :
    (es.filter isVendorOui).map (cut wifiSpec) = es.filter isVendorOui := by
  induction es generalizing i with
  | nil => rfl
  | cons e rest ih =>
    obtain ⟨-, -, hrest⟩ := encode_at hes
    have htail := ih (i + e.size) hrest hfit.2
    rw [List.filter_cons]
    split
    · rename_i hvendor
      rw [List.map_cons, htail]
      have hcut : cut wifiSpec e = e := by
        unfold cut
        split
        · rename_i hwps
          unfold isVendorOui at hvendor
          rw [Bool.and_eq_true, beq_iff_eq] at hvendor
          have hlong : 4 ≤ e.body.length := by
            have htake := congrArg List.length hwps.2
            rw [List.length_take] at htake
            have hfour : WPS_OUI.length = 4 := rfl
            omega
          have h14 := (hfit.1 hvendor.1).2 (by simpa using hwps.1) ((oui_at hes hlong).trans hwps.2)
          exact Tlv.ext rfl (List.take_of_length_le (by omega))
        · rfl
      rw [hcut]
    · exact htail

end Elements

end AssocReq

end Rtl8723au
