import Rtl8723au.Mlme.AssocReqVendor

/-! When the association request is well formed and faithful to the network. -/
namespace Rtl8723au
open Mem Security Tlv AccessM
set_option autoImplicit false

namespace AssocReq

variable {s : AssocReqMem} {a : AssocReqInfo}

/-! ## The rates of the network and of the station -/

/-- The rates of the network: `SupportedRates` up to the first zero. -/
def networkRates (a : AssocReqInfo) : List UInt8 := upToZero a.network.supportedRates.toList

/-- The rates of the station; on channel 14 the first four. -/
def stationRates (a : AssocReqInfo) : List UInt8 := if a.curChannel = 14 then (getRateSet a).take 4 else getRateSet a

/-- The rates of the network that the station supports. -/
def commonRates (a : AssocReqInfo) : List UInt8 := (networkRates a).filter (supports (stationRates a))

/-- No rate of the network matches an entry of `sta_bssrate` that was not set. -/
def NoStaleRate (a : AssocReqInfo) : Prop :=
  ∀ rate ∈ networkRates a, supports (staRates a) rate = true → supports (stationRates a) rate = true

theorem stationRates_subset : stationRates a ⊆ staRates a := by
  intro rate hrate
  have hmem : ∃ j, j < (if a.curChannel = 14 then 4 else (getRateSet a).length) ∧
      (getRateSet a).getD j (a.staBssrate j) = rate := by
    unfold stationRates at hrate
    split at hrate
    · rename_i hchannel
      obtain ⟨j, hj, rfl⟩ := List.mem_iff_getElem.mp hrate
      rw [List.length_take] at hj
      refine ⟨j, by rw [if_pos hchannel]; omega, ?_⟩
      rw [List.getElem_take, List.getD_eq_getElem _ _ (by omega)]
    · rename_i hchannel
      obtain ⟨j, hj, rfl⟩ := List.mem_iff_getElem.mp hrate
      exact ⟨j, by rw [if_neg hchannel]; exact hj, List.getD_eq_getElem _ _ hj⟩
  obtain ⟨j, hj, hget⟩ := hmem
  exact List.mem_map.mpr ⟨j, List.mem_range.mpr hj, hget⟩

theorem supports_mono {sta sta' : List UInt8} (h : sta ⊆ sta') {rate : UInt8} (hrate : supports sta rate = true) :
    supports sta' rate = true := by
  obtain ⟨x, hx, heq⟩ := List.any_eq_true.mp hrate
  exact List.any_eq_true.mpr ⟨x, h hx, heq⟩

theorem kept_eq_common_iff : kept (staRates a) a.network.supportedRates.toList = commonRates a ↔ NoStaleRate a := by
  unfold kept commonRates NoStaleRate
  constructor
  · intro h rate hrate hsup
    have hmem : rate ∈ (networkRates a).filter (supports (staRates a)) := List.mem_filter.mpr ⟨hrate, hsup⟩
    rw [show (networkRates a).filter (supports (staRates a)) = _ from h] at hmem
    exact (List.mem_filter.mp hmem).2
  · intro h
    refine List.filter_congr fun rate hrate => ?_
    by_cases hsup : supports (staRates a) rate = true
    · rw [hsup, h rate hrate hsup]
    · have hnot : supports (stationRates a) rate ≠ true := fun hcommon => hsup (supports_mono stationRates_subset hcommon)
      rw [Bool.not_eq_true] at hsup
      rw [hsup, Bool.eq_false_of_not_eq_true hnot]

theorem common_subset_kept : commonRates a ⊆ kept (staRates a) a.network.supportedRates.toList := by
  intro rate hrate
  obtain ⟨hmem, hsup⟩ := List.mem_filter.mp hrate
  exact List.mem_filter.mpr ⟨hmem, supports_mono stationRates_subset hsup⟩

theorem kept_length_le {sta rates : List UInt8} : (kept sta rates).length ≤ rates.length :=
  le_trans (List.length_filter_le _ _) (List.takeWhile_prefix _).length_le

/-! ## The elements that do not come from the network -/

section Extra

/-- Elements that are neither of WPA nor of WMM nor of WPS. -/
def Foreign (l : List Tlv) : Prop := ∀ e ∈ l, e.id = _VENDOR_SPECIFIC_IE_ ∧ isVendorOui e = false

theorem Foreign.filter_eq {l : List Tlv} (h : Foreign l) : l.filter isVendorOui = [] :=
  List.filter_eq_nil_iff.mpr fun e he => by
    rw [(h e he).2]
    decide

theorem Foreign.nil : Foreign [] := fun _ he => absurd he List.not_mem_nil

theorem setRealtek_adds : ∃ l, Adds l s ((setRealtek a).run s).st ∧ Foreign l := by
  unfold setRealtek
  rw [ite_run]
  split
  · refine ⟨[⟨_VENDOR_SPECIFIC_IE_, REALTEK_96B_IE, by decide⟩], rtwSetIe_adds _, ?_⟩
    intro e he
    rw [List.mem_singleton.mp he]
    exact ⟨rfl, by decide⟩
  · exact ⟨[], .refl s, .nil⟩

theorem be16_length (v : ℕ) : (be16 v).length = 2 := rfl

theorem cpuToLe16_length (v : ℕ) : (cpuToLe16 v).length = 2 := rfl

theorem p2pie_length : (p2pie a).length < 256 := by
  have hname := a.wdinfo.deviceNameLen.isLt
  unfold p2pie
  dsimp only
  simp only [List.length_append, List.length_cons, List.length_nil, List.length_take, Vector.length_toList,
    be16_length, cpuToLe16_length]
  omega

theorem wfdie_length (w : WifidirectInfo) : (wfdie w).length < 256 := by
  unfold wfdie
  split <;> simp [be16]

theorem take_oui (x y z w : UInt8) (l : List UInt8) : ([x, y, z, w] ++ l).take 4 = [x, y, z, w] := rfl

theorem p2pie_oui : (p2pie a).take 4 = [0x50, 0x6f, 0x9a, 0x09] := by
  unfold p2pie
  dsimp only
  simp only [List.append_assoc]
  exact take_oui _ _ _ _ _

theorem wfdie_oui (w : WifidirectInfo) : (wfdie w).take 4 = [0x50, 0x6f, 0x9a, 0x0a] := by
  unfold wfdie
  simp only [List.append_assoc]
  exact take_oui _ _ _ _ _

theorem setP2p_adds : ∃ l, Adds l s ((setP2p a).run s).st ∧ Foreign l := by
  unfold setP2p
  rw [ite_run]
  split
  · have hfirst := rtwSetIe_adds (s := s) ⟨_VENDOR_SPECIFIC_IE_, p2pie a, p2pie_length⟩
    have hsecond := rtwSetIe_adds (s := ((rtwSetIe _VENDOR_SPECIFIC_IE_ (p2pie a)).run s).st)
      ⟨_VENDOR_SPECIFIC_IE_, wfdie a.wdinfo, wfdie_length _⟩
    refine ⟨_, hfirst.trans hsecond, ?_⟩
    intro e he
    rcases List.mem_append.mp he with h | h
    · rw [List.mem_singleton.mp h]
      refine ⟨rfl, ?_⟩
      rw [isVendorOui, p2pie_oui]
      show (_VENDOR_SPECIFIC_IE_ == _VENDOR_SPECIFIC_IE_ && isOui [0x50, 0x6f, 0x9a, 0x09]) = false
      decide
    · rw [List.mem_singleton.mp h]
      refine ⟨rfl, ?_⟩
      rw [isVendorOui, wfdie_oui]
      show (_VENDOR_SPECIFIC_IE_ == _VENDOR_SPECIFIC_IE_ && isOui [0x50, 0x6f, 0x9a, 0x0a]) = false
      decide
  · exact ⟨[], .refl s, .nil⟩

theorem setRealtek_ies : ((setRealtek a).run s).st.ies = s.ies := by
  unfold setRealtek
  rw [ite_run]
  split <;> rfl

theorem setP2p_ies : ((setP2p a).run s).st.ies = s.ies := by
  unfold setP2p
  rw [ite_run]
  split <;> rfl

theorem inside_setRealtek {P : AssocReqAddr → Prop} : Inside P (setRealtek a) s := by
  unfold setRealtek
  rw [inside_ite]
  split
  · exact inside_rtwSetIe _ _
  · exact inside_pure _ _ _

theorem inside_setP2p {P : AssocReqAddr → Prop} : Inside P (setP2p a) s := by
  unfold setP2p
  rw [inside_ite]
  split
  · rw [inside_bind]
    exact ⟨inside_rtwSetIe _ _, inside_rtwSetIe _ _⟩
  · exact inside_pure _ _ _

end Extra

/-! ## All elements -/

theorem Adds.unique {l l' : List Tlv} {t : AssocReqMem} (h : Adds l s t) (h' : Adds l' s t) : l = l' :=
  encodeAll_injective (List.append_cancel_left (h.pframe.symm.trans h'.pframe))

def isRate (e : Tlv) : Bool := e.id == _SUPPORTEDRATES_IE_ || e.id == _EXT_SUPPORTEDRATES_IE_

/-- The elements of a request, by the part of the function they come from. -/
structure Parts (a : AssocReqInfo) (rates : List UInt8) where
  rate : List Tlv
  rsn : List Tlv
  ht : List Tlv
  vendor : List Tlv
  extra : List Tlv
  rate_eq : rate.map pair = rateElements rates
  rsn_id : ∀ e ∈ rsn, e.id = _RSN_IE_2_
  ht_id : ∀ e ∈ ht, e.id = _HT_CAPABILITY_IE_
  vendor_id : ∀ e ∈ vendor, e.id = _VENDOR_SPECIFIC_IE_
  extra_foreign : Foreign extra

namespace Parts
variable {rates : List UInt8} (p : Parts a rates)

def all : List Tlv := p.rate ++ p.rsn ++ p.ht ++ p.vendor ++ p.extra

theorem rate_id {e : Tlv} (he : e ∈ p.rate) : isRate e = true ∧ isVendorOui e = false := by
  have hmem : pair e ∈ rateElements rates := by
    rw [← p.rate_eq]
    exact List.mem_map_of_mem he
  have hid : e.id = _SUPPORTEDRATES_IE_ ∨ e.id = _EXT_SUPPORTEDRATES_IE_ := by
    unfold rateElements at hmem
    split at hmem
    · rcases List.mem_cons.mp hmem with h | h
      · exact Or.inl (congrArg Prod.fst h)
      · exact Or.inr (congrArg Prod.fst (List.mem_singleton.mp h))
    · exact Or.inl (congrArg Prod.fst (List.mem_singleton.mp hmem))
  unfold isRate isVendorOui
  rcases hid with h | h
  all_goals
    rw [h]
    exact ⟨rfl, rfl⟩

theorem other_id {l : List Tlv} {id : UInt8} (hids : ∀ e ∈ l, e.id = id)
    (hid : (id == _SUPPORTEDRATES_IE_ || id == _EXT_SUPPORTEDRATES_IE_) = false) : l.filter isRate = [] :=
  List.filter_eq_nil_iff.mpr fun e he => by
    rw [isRate, hids e he, hid]
    decide

theorem other_vendor {l : List Tlv} {id : UInt8} (hids : ∀ e ∈ l, e.id = id)
    (hid : (id == _VENDOR_SPECIFIC_IE_) = false) : l.filter isVendorOui = [] :=
  List.filter_eq_nil_iff.mpr fun e he => by
    rw [isVendorOui, hids e he, hid, Bool.false_and]
    exact Bool.false_ne_true

theorem filter_isRate : p.all.filter isRate = p.rate := by
  unfold all
  rw [List.filter_append, List.filter_append, List.filter_append, List.filter_append,
    other_id p.rsn_id (by decide), other_id p.ht_id (by decide), other_id p.vendor_id (by decide),
    other_id (fun e he => (p.extra_foreign e he).1) (by decide),
    List.filter_eq_self.mpr fun e he => (p.rate_id he).1]
  simp

theorem filter_isVendorOui : p.all.filter isVendorOui = p.vendor.filter isVendorOui := by
  have hrate : p.rate.filter isVendorOui = [] :=
    List.filter_eq_nil_iff.mpr fun e he => by
      rw [(p.rate_id he).2]
      decide
  unfold all
  rw [List.filter_append, List.filter_append, List.filter_append, List.filter_append, hrate,
    other_vendor p.rsn_id (by decide), other_vendor p.ht_id (by decide), p.extra_foreign.filter_eq]
  simp

end Parts

section Elements
variable {es : List Tlv} {rates : List UInt8}
  (hbytes : bytesAt s.bssrate 0 rates.length = rates) (hsixteen : rates.length ≤ 16)
  (hes : bytesAt s.ies _FIXED_IE_LENGTH_ (encodeAll es).length = encodeAll es)
  (hlen : a.network.ieLength = _FIXED_IE_LENGTH_ + (encodeAll es).length)
include hbytes hsixteen hes hlen

/-- The state before the walk over the vendor specific elements. -/
def beforeVendor (a : AssocReqInfo) (n : ℕ) (s : AssocReqMem) : AssocReqMem :=
  ((setHtCaps a a.network.ieLength).run ((setRsn a.network.ieLength).run ((setRates n).run s).st).st).st

omit hbytes hsixteen hes hlen in
theorem beforeVendor_ies (n : ℕ) : (beforeVendor a n s).ies = s.ies := by
  rw [beforeVendor, setHtCaps_ies, setRsn_ies, setRates_ies]

omit hbytes hsixteen hes hlen in
theorem setElements_ies (n : ℕ) :
    ((setElements a n).run s).st.ies = ((setVendor a).run (beforeVendor a n s)).st.ies := by
  unfold setElements
  rw [bind_st, bind_st, bind_st, bind_st, bind_st, setP2p_ies, setRealtek_ies]
  rfl

theorem setElements_adds :
    ∃ p : Parts a rates, Adds p.all s ((setElements a rates.length).run s).st ∧
      Adds p.vendor (beforeVendor a rates.length s) ((setVendor a).run (beforeVendor a rates.length s)).st := by
  obtain ⟨rate, hrate, rate_eq⟩ := setRates_adds hbytes hsixteen
  have hies1 : ((setRates rates.length).run s).st.ies = s.ies := setRates_ies rates.length
  obtain ⟨rsn, hrsn, rsn_id⟩ := setRsn_adds (s := ((setRates rates.length).run s).st) (by rw [hies1]; exact hes) hlen
  have hies2 : ((setRsn a.network.ieLength).run ((setRates rates.length).run s).st).st.ies = s.ies := by
    rw [setRsn_ies, hies1]
  obtain ⟨ht, hht, ht_id⟩ := setHtCaps_adds (a := a)
    (s := ((setRsn a.network.ieLength).run ((setRates rates.length).run s).st).st) (by rw [hies2]; exact hes) hlen
  obtain ⟨vendor, hvendor, vendor_id⟩ := walk_vendor_adds a.wifiSpec a.network.ieLength
    a.network.ieLength _FIXED_IE_LENGTH_ (beforeVendor a rates.length s)
  have hvendor : Adds vendor (beforeVendor a rates.length s) ((setVendor a).run (beforeVendor a rates.length s)).st :=
    hvendor
  obtain ⟨realtek, hrealtek, realtek_foreign⟩ := setRealtek_adds (a := a)
    (s := ((setVendor a).run (beforeVendor a rates.length s)).st)
  obtain ⟨p2p, hp2p, p2p_foreign⟩ := setP2p_adds (a := a)
    (s := ((setRealtek a).run ((setVendor a).run (beforeVendor a rates.length s)).st).st)
  refine ⟨⟨rate, rsn, ht, vendor, realtek ++ p2p, rate_eq, rsn_id, ht_id, vendor_id, ?_⟩, ?_, hvendor⟩
  · intro e he
    rcases List.mem_append.mp he with h | h
    · exact realtek_foreign e h
    · exact p2p_foreign e h
  · have hall := ((((hrate.trans hrsn).trans hht).trans hvendor).trans (hrealtek.trans hp2p))
    exact hall

omit hbytes in
/-- The elements are read inside the record, and it is left as it was, when the HT element has room and the vendor
specific elements fit. -/
theorem setElements_inside_iff (hthirteen : rates.length ≤ 13) :
    (Inside (InBounds a.network.ieLength) (setElements a rates.length) s ∧
      ((setElements a rates.length).run s).st.ies = s.ies) ↔
    HtRoom a s.ies a.network.ieLength es ∧
      VendorsFit s.ies a.network.ieLength a.wifiSpec _FIXED_IE_LENGTH_ es := by
  have hies := beforeVendor_ies (a := a) (s := s) rates.length
  have hies1 : ((setRates rates.length).run s).st.ies = s.ies := setRates_ies rates.length
  have hies2 : ((setRsn a.network.ieLength).run ((setRates rates.length).run s).st).st.ies = s.ies := by
    rw [setRsn_ies, hies1]
  have hcount := length_le_encodeAll es
  have hht := inside_setHtCaps (a := a)
    (s := ((setRsn a.network.ieLength).run ((setRates rates.length).run s).st).st) (by rw [hies2]; exact hes) hlen
  rw [hies2] at hht
  have hsplit : Inside (InBounds a.network.ieLength) (setElements a rates.length) s ↔
      HtRoom a s.ies a.network.ieLength es ∧
        Inside (InBounds a.network.ieLength) (setVendor a) (beforeVendor a rates.length s) := by
    unfold setElements
    rw [inside_bind, inside_bind, inside_bind, inside_bind, inside_bind, hht]
    constructor
    · rintro ⟨-, -, hht, hvendor, -⟩
      exact ⟨hht, hvendor⟩
    · rintro ⟨hht, hvendor⟩
      refine ⟨inside_setRates fun k hk => ⟨by omega, by omega⟩, inside_setRsn (by rw [hies1]; exact hes) hlen, hht,
        hvendor, inside_setRealtek, inside_setP2p⟩
  have hwalk : Inside (InBounds a.network.ieLength) (setVendor a) (beforeVendor a rates.length s) ↔
      Inside (InBounds a.network.ieLength) (walk iesPart (vendorAt a.wifiSpec) a.network.ieLength a.network.ieLength
        _FIXED_IE_LENGTH_) (beforeVendor a rates.length s) := by
    unfold setVendor
    rw [inside_bind]
    exact and_iff_left (inside_pure _ _ _)
  rw [hsplit, hwalk, setElements_ies, and_assoc]
  refine and_congr_right fun _ => ?_
  constructor
  · rintro ⟨hin, hkept⟩
    rw [← hies] at hkept ⊢
    exact vendorsFit_of_walk es _ _ _ (by omega) (by omega) (by rw [hies]; exact hes) hin hkept
  · intro hfit
    rw [← hies] at hfit
    have hspec := walk_vendor_fit es a.network.ieLength _FIXED_IE_LENGTH_ (beforeVendor a rates.length s) (by omega)
      (by omega) (by omega) (by rw [hies]; exact hes) hfit
    exact ⟨hspec.2.1, hspec.1.trans hies⟩

end Elements

/-! ## The request -/

theorem rateElements_injective {rates rates' : List UInt8} (h : rateElements rates = rateElements rates') :
    rates = rates' := by
  unfold rateElements at h
  split at h
  · split at h
    · have hfirst := (Prod.mk.inj (List.cons.inj h).1).2
      have hsecond := (Prod.mk.inj (List.cons.inj (List.cons.inj h).2).1).2
      rw [← List.take_append_drop 8 rates, hfirst, hsecond, List.take_append_drop]
    · exact absurd (List.cons.inj h).2 (List.cons_ne_nil _ _)
  · split at h
    · exact absurd (List.cons.inj h).2.symm (List.cons_ne_nil _ _)
    · exact (Prod.mk.inj (List.cons.inj h).1).2

/-- What the request must be. -/
structure Faithful (a : AssocReqInfo) (es : List Tlv) (o : Outcome AssocReqAddr AssocReqMem Bool) : Prop where
  sent : o.val = true
  inside : ∀ x ∈ o.log, InBounds a.network.ieLength x
  wellFormed : ∃ (hdr fixed : List UInt8) (req : List Tlv), o.st.pframe = hdr ++ fixed ++ encodeAll req ∧
    hdr.length = 24 ∧ fixed.length = 4 ∧
    (req.filter isRate).map pair = rateElements (commonRates a) ∧
    req.filter isVendorOui = (es.filter isVendorOui).map (cut a.wifiSpec)
  pktlen : o.st.pktlen = o.st.pframe.length
  ies : o.st.ies = a.network.ies

/-- What the request takes for granted. -/
structure Orderly (a : AssocReqInfo) (es : List Tlv) : Prop where
  rates : (commonRates a).length ≤ 13
  stale : NoStaleRate a
  ht : HtRoom a a.network.ies a.network.ieLength es
  vendors : VendorsFit a.network.ies a.network.ieLength a.wifiSpec _FIXED_IE_LENGTH_ es

def capabilities (a : AssocReqInfo) : List UInt8 := bytesAt a.network.ies 10 2 ++ [3, 0]

def ssidElement (a : AssocReqInfo) : Tlv :=
  ⟨_SSID_IE_, a.network.ssid.toList.take a.network.ssidLength.val, by
    rw [List.length_take]
    have := a.network.ssidLength.isLt
    omega⟩

theorem wlanhdr_length : (wlanhdr a).length = 24 := bytesAt_length _

theorem setFixed_spec :
    ((setFixed a).run (start a)).st = { start a with
      pframe := wlanhdr a ++ capabilities a ++ encodeAll [ssidElement a]
      pktlen := (wlanhdr a ++ capabilities a ++ encodeAll [ssidElement a]).length } := by
  have hframe : ((setFixed a).run (start a)).st.pframe = wlanhdr a ++ capabilities a ++ encodeAll [ssidElement a] := by
    show [] ++ wlanhdr a ++ bytesAt a.network.ies 10 2 ++ [3, 0] ++ (ssidElement a).encode = _
    rw [encodeAll_cons, encodeAll_nil, List.append_nil, List.nil_append, capabilities, List.append_assoc (wlanhdr a)]
  have hlen : ((setFixed a).run (start a)).st.pktlen = ((setFixed a).run (start a)).st.pframe.length := by
    show 0 + (wlanhdr a).length + (bytesAt a.network.ies 10 2).length + 2 + (ssidElement a).size =
      ([] ++ wlanhdr a ++ bytesAt a.network.ies 10 2 ++ [3, 0] ++ (ssidElement a).encode).length
    simp only [List.length_append, List.length_nil, encode_length]
    rfl
  have hst : ((setFixed a).run (start a)).st = { start a with
      pframe := ((setFixed a).run (start a)).st.pframe
      pktlen := ((setFixed a).run (start a)).st.pktlen } := rfl
  rw [hst, hlen, hframe]

theorem inside_setFixed (h : 12 ≤ a.network.ieLength) : Inside (InBounds a.network.ieLength) (setFixed a) (start a) := by
  unfold setFixed
  rw [inside_bind, inside_bind, inside_bind, inside_bind]
  exact ⟨inside_modify _ _ _, inside_ies_block (by omega) (by omega), inside_modify _ _ _, inside_modify _ _ _,
    inside_rtwSetIe _ _⟩

/-- The rates that the loop puts into `bssrate`. -/
def keptRates (a : AssocReqInfo) : List UInt8 := kept (staRates a) a.network.supportedRates.toList

def afterRates (a : AssocReqInfo) : AssocReqMem :=
  { start a with
    bssrate := putBytes a.bssrate 0 (keptRates a)
    pframe := wlanhdr a ++ capabilities a ++ encodeAll [ssidElement a]
    pktlen := (wlanhdr a ++ capabilities a ++ encodeAll [ssidElement a]).length }

theorem issueAssocreq_spec (hkept : keptRates a ≠ []) (hlen : 12 ≤ a.network.ieLength) :
    ((issueAssocreq a).run (start a)).val = true ∧
    ((issueAssocreq a).run (start a)).st = ((setElements a (keptRates a).length).run (afterRates a)).st ∧
    (Inside (InBounds a.network.ieLength) (issueAssocreq a) (start a) ↔ (keptRates a).length ≤ 13 ∧
      Inside (InBounds a.network.ieLength) (setElements a (keptRates a).length) (afterRates a)) := by
  obtain ⟨hval, hst, hin⟩ := joinRates_spec (s := ((setFixed a).run (start a)).st)
    (P := InBounds a.network.ieLength) (staRates a) a.network.supportedRates.toList 0
  rw [Nat.zero_add] at hval
  have hval : ((joinRates (staRates a) a.network.supportedRates.toList 0).run ((setFixed a).run (start a)).st).val =
      (keptRates a).length := hval
  rw [setFixed_spec] at hst
  have hst : ((joinRates (staRates a) a.network.supportedRates.toList 0).run ((setFixed a).run (start a)).st).st =
      afterRates a := by
    rw [setFixed_spec]
    exact hst
  have hpos : (keptRates a).length ≠ 0 := fun h => hkept (List.length_eq_zero_iff.mp h)
  have hrates : (∀ k < (keptRates a).length, InBounds a.network.ieLength (.bssrate ((0 + k : ℕ) : ℤ))) ↔
      (keptRates a).length ≤ 13 := by
    constructor
    · intro h
      have hlast := (h ((keptRates a).length - 1) (by omega)).2
      omega
    · intro h k hk
      exact ⟨by omega, by omega⟩
  unfold issueAssocreq
  rw [bind_val, bind_st, bind_val, bind_st, inside_bind, inside_bind, hin, hst, hval, ite_run, inside_ite,
    if_neg hpos, if_neg hpos, inside_bind]
  refine ⟨rfl, rfl, ?_⟩
  constructor
  · rintro ⟨-, h, hel, -⟩
    exact ⟨hrates.mp h, hel⟩
  · rintro ⟨h, hel⟩
    exact ⟨inside_setFixed hlen, hrates.mpr h, hel, inside_pure _ _ _⟩

/-- The request is well formed and faithful exactly when the network is one it takes for granted. -/
theorem request_faithful (a : AssocReqInfo) (fixed : List UInt8) (es : List Tlv)
    (network : BcnOf fixed es a.network.toBcnNetwork) (common : commonRates a ≠ []) :
    Faithful a es ((issueAssocreq a).run (start a)) ↔ Orderly a es := by
  have hlen : a.network.ieLength = _FIXED_IE_LENGTH_ + (encodeAll es).length := network.ieLength_eq
  have hes : bytesAt (afterRates a).ies _FIXED_IE_LENGTH_ (encodeAll es).length = encodeAll es := network.elements
  have htwelve : _FIXED_IE_LENGTH_ = 12 := rfl
  have hkept : keptRates a ≠ [] := by
    intro hnil
    obtain ⟨rate, hrate⟩ := List.exists_mem_of_ne_nil _ common
    have hmem := common_subset_kept hrate
    rw [show kept (staRates a) a.network.supportedRates.toList = [] from hnil] at hmem
    exact List.not_mem_nil hmem
  have hsixteen : (keptRates a).length ≤ 16 := le_trans kept_length_le (by rw [Vector.length_toList])
  obtain ⟨hval, hst, hin⟩ := issueAssocreq_spec hkept (by omega)
  have hbytes : bytesAt (afterRates a).bssrate 0 (keptRates a).length = keptRates a :=
    bytesAt_eq (keptRates a) fun k hk => putBytes_inside _ 0 (keptRates a) k hk
  obtain ⟨p, hadds, hvendor⟩ := setElements_adds hbytes hsixteen hes hlen
  have hframe : ((issueAssocreq a).run (start a)).st.pframe =
      wlanhdr a ++ capabilities a ++ encodeAll (ssidElement a :: p.all) := by
    rw [hst, hadds.pframe]
    show wlanhdr a ++ capabilities a ++ encodeAll [ssidElement a] ++ encodeAll p.all = _
    rw [List.append_assoc, ← encodeAll_append]
    rfl
  have hpktlen : ((issueAssocreq a).run (start a)).st.pktlen = ((issueAssocreq a).run (start a)).st.pframe.length := by
    rw [hst, hadds.pktlen, hadds.pframe, List.length_append]
    rfl
  have hrate : ((ssidElement a :: p.all).filter isRate).map pair = rateElements (keptRates a) := by
    rw [List.filter_cons, show isRate (ssidElement a) = false from rfl]
    show (p.all.filter isRate).map pair = _
    rw [p.filter_isRate, p.rate_eq]
  have hoffer : (ssidElement a :: p.all).filter isVendorOui = p.vendor.filter isVendorOui := by
    rw [List.filter_cons, show isVendorOui (ssidElement a) = false from rfl]
    exact p.filter_isVendorOui
  have hcapabilities : (capabilities a).length = 4 := by
    rw [capabilities, List.length_append, bytesAt_length]
    rfl
  constructor
  · intro h
    obtain ⟨hthirteen, helements⟩ := hin.mp h.inside
    obtain ⟨hdr, fixed', req, hreq, hhdr, hfixed, hrates, -⟩ := h.wellFormed
    have hbefore : (hdr ++ fixed').length = (wlanhdr a ++ capabilities a).length := by
      rw [List.length_append, List.length_append, hhdr, hfixed, wlanhdr_length, hcapabilities]
    have hsame := encodeAll_injective (List.append_inj_right (hreq.symm.trans hframe) hbefore)
    rw [hsame, hrate] at hrates
    have hcommon : keptRates a = commonRates a := rateElements_injective hrates
    obtain ⟨hht, hfit⟩ := (setElements_inside_iff hsixteen hes hlen hthirteen).mp ⟨helements, by
      rw [← hst]
      exact h.ies⟩
    exact ⟨by rw [← hcommon]; exact hthirteen, kept_eq_common_iff.mp hcommon, hht, hfit⟩
  · intro h
    have hcommon : keptRates a = commonRates a := kept_eq_common_iff.mpr h.stale
    have hthirteen : (keptRates a).length ≤ 13 := by
      rw [hcommon]
      exact h.rates
    obtain ⟨helements, hies⟩ := (setElements_inside_iff hsixteen hes hlen hthirteen).mpr ⟨h.ht, h.vendors⟩
    have hcount := length_le_encodeAll es
    have hbies : (beforeVendor a (keptRates a).length (afterRates a)).ies = a.network.ies := beforeVendor_ies _
    have hfit : VendorsFit (beforeVendor a (keptRates a).length (afterRates a)).ies a.network.ieLength a.wifiSpec
        _FIXED_IE_LENGTH_ es := by
      rw [hbies]
      exact h.vendors
    obtain ⟨-, -, l, hl, hfilter⟩ := walk_vendor_fit es a.network.ieLength _FIXED_IE_LENGTH_
      (beforeVendor a (keptRates a).length (afterRates a)) (by omega) (by omega) (by omega)
      (by rw [hbies]; exact hes) hfit
    have hwalked : p.vendor = l := hvendor.unique hl
    refine ⟨hval, hin.mpr ⟨hthirteen, helements⟩, ⟨wlanhdr a, capabilities a, ssidElement a :: p.all, hframe,
      wlanhdr_length, hcapabilities, ?_, ?_⟩, hpktlen, ?_⟩
    · rw [hrate, hcommon]
    · rw [hoffer, hwalked, hfilter, cut_eq_of_fit es a.network.ies _ hes h.vendors]
    · rw [hst]
      exact hies

/-! An access point with an SSID, an HT, a WPS and a WMM element. -/

instance : (ies : Mem) → (ieLength : ℕ) → (wifiSpec : Bool) → (i : ℤ) → (es : List Tlv) →
    Decidable (VendorsFit ies ieLength wifiSpec i es)
  | _, _, _, _, [] => .isTrue trivial
  | ies, ieLength, wifiSpec, i, e :: rest =>
    have := instDecidableVendorsFit ies ieLength wifiSpec (i + e.size) rest
    inferInstanceAs (Decidable ((e.id = _VENDOR_SPECIFIC_IE_ → i + 6 ≤ ieLength ∧
      (wifiSpec = false → bytesAt ies (i + 2) 4 = WPS_OUI → e.body.length = 14)) ∧
      VendorsFit ies ieLength wifiSpec (i + e.size) rest))

def sampleWps (n : Fin 100) : Tlv :=
  ⟨_VENDOR_SPECIFIC_IE_, WPS_OUI ++ List.replicate n.val 0x10, by
    rw [List.length_append, List.length_replicate]
    have hfour : WPS_OUI.length = 4 := rfl
    have := n.isLt
    omega⟩

def sampleFixed : List UInt8 := [0, 0, 0, 0, 0, 0, 0, 0, 100, 0, 1, 0]

def sampleElements (n : Fin 100) : List Tlv :=
  [⟨_SSID_IE_, [0x61, 0x61], by decide⟩, ⟨_HT_CAPABILITY_IE_, List.replicate 26 0, by decide⟩, sampleWps n,
    ⟨_VENDOR_SPECIFIC_IE_, WMM_OUI ++ [1, 1], by decide⟩]

def sampleRequest (n : Fin 100) : AssocReqInfo :=
  { myid := #v[2, 0, 0, 0, 0, 21]
    htOption := true
    datarate := #v[0, 1, 2, 3, 4, 5, 6, 7, 8, 9, 10, 11, 0xff]
    basicrate := #v[0, 1, 2, 3, 0xff, 0xff, 0xff, 0xff, 0xff, 0xff, 0xff, 0xff, 0xff]
    network :=
      { ies := fun x => (sampleFixed ++ encodeAll (sampleElements n)).getD x.toNat 0
        ieLength := (sampleFixed ++ encodeAll (sampleElements n)).length
        macAddress := #v[2, 0, 0, 0, 0, 20]
        ssid := Vector.replicate 32 0x61
        ssidLength := 2
        supportedRates := #v[0x82, 0x84, 0x8b, 0x96, 0x24, 0x30, 0x48, 0x6c, 0x0c, 0x12, 0x18, 0x60, 0, 0, 0, 0] } }

set_option maxRecDepth 20000 in
theorem sample_network (n : Fin 100) (hfits : (sampleRequest n).network.ieLength ≤ MAX_IE_SZ) :
    BcnOf sampleFixed (sampleElements n) (sampleRequest n).network.toBcnNetwork := by
  refine ⟨rfl, ?_, hfits⟩
  exact bytesAt_eq (m := (sampleRequest n).network.ies) (p := 0) (sampleFixed ++ encodeAll (sampleElements n))
    fun k _ => by
      show (sampleFixed ++ encodeAll (sampleElements n)).getD ((0 : ℤ) + k).toNat 0 = _
      rw [zero_add, Int.toNat_natCast]

theorem sample_ht : HtRoom (sampleRequest 10) (sampleRequest 10).network.ies (sampleRequest 10).network.ieLength
    (sampleElements 10) := by
  intro _ p len hfound
  have hsearch : ((rtwGetIe _FIXED_IE_LENGTH_ _HT_CAPABILITY_IE_
      (((sampleRequest 10).network.ieLength : ℤ) - _FIXED_IE_LENGTH_)).run (sampleRequest 10).network.ies).val =
        some (16, 26) := by
    decide +kernel
  rw [hsearch] at hfound
  obtain ⟨rfl, rfl⟩ := Prod.mk.inj (Option.some.inj hfound)
  refine ⟨fun hprivacy => absurd hprivacy (by decide +kernel), fun _ => by decide +kernel⟩

theorem request_faithful_sample :
    Faithful (sampleRequest 10) (sampleElements 10) ((issueAssocreq (sampleRequest 10)).run (start (sampleRequest 10))) :=
  (request_faithful (sampleRequest 10) sampleFixed (sampleElements 10) (sample_network 10 (by decide +kernel))
    (by decide +kernel)).mpr
    { rates := by decide +kernel
      stale := by
        unfold NoStaleRate
        decide +kernel
      ht := sample_ht
      vendors := by decide +kernel }

/-- A WPS element of 20 bytes is cut in the record itself. -/
theorem request_changes_network :
    ¬ ∀ (a : AssocReqInfo) (fixed : List UInt8) (es : List Tlv), BcnOf fixed es a.network.toBcnNetwork →
      commonRates a ≠ [] → Faithful a es ((issueAssocreq a).run (start a)) := by
  intro h
  have hies := (h (sampleRequest 16) sampleFixed (sampleElements 16) (sample_network 16 (by decide +kernel))
    (by decide +kernel)).ies
  have hlength : ((issueAssocreq (sampleRequest 16)).run (start (sampleRequest 16))).st.ies 45 = 14 := by
    decide +kernel
  rw [hies] at hlength
  exact absurd hlength (by decide +kernel)

end AssocReq

end Rtl8723au
