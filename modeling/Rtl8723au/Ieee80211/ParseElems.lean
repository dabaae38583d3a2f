import Rtl8723au.Ieee80211.ElementsAt

/-! The elements of a management frame, as `rtw_ieee802_11_parse_elems` of `core/rtw_ieee80211.c` records them: for each
kind of element where its body is and how long. -/
namespace Rtl8723au.Ieee80211
open Mem Security AccessM
set_option autoImplicit false

/-- The pointers of `struct rtw_ieee802_11_elems`. -/
inductive Elem where
  | ssid | suppRates | fhParams | dsParams | cfParams | tim | ibssParams | challenge | erpInfo | extSuppRates | wpaIe
  | rsnIe | wme | wmeTspec | wpsIe | powerCap | suppChannels | mdie | ftie | timeoutInt | htCapabilities | htOperation
  | vendorHtCap
  deriving DecidableEq

/-- `struct rtw_ieee802_11_elems`: each pointer with its length, if it is not null. -/
abbrev RtwIeee80211Elems := Elem → Option (ℤ × ℕ)

namespace RtwIeee80211Elems

def zero : RtwIeee80211Elems := fun _ => none

def store (elems : RtwIeee80211Elems) (f : Elem) (pos : ℤ) (elen : ℕ) : RtwIeee80211Elems :=
  Function.update elems f (some (pos, elen))

end RtwIeee80211Elems

inductive ParseRes where
  | parseOK | parseUnknown | parseFailed
  deriving DecidableEq

def WLAN_EID_VENDOR_SPECIFIC : UInt8 := 221
def OUI_MICROSOFT : Vector UInt8 3 := #v[0x00, 0x50, 0xf2]
def OUI_BROADCOM : Vector UInt8 3 := #v[0x00, 0x90, 0x4c]
def WME_OUI_TYPE : UInt8 := 2
def WME_OUI_SUBTYPE_INFORMATION_ELEMENT : UInt8 := 0
def WME_OUI_SUBTYPE_PARAMETER_ELEMENT : UInt8 := 1
def WME_OUI_SUBTYPE_TSPEC_ELEMENT : UInt8 := 2
def VENDOR_HT_CAPAB_OUI_TYPE : UInt8 := 0x33

/-- `rtw_ieee802_11_parse_vendor_specific`; the answer tells that the element is known. -/
def rtwIeee80211ParseVendorSpecific (pos : ℤ) (elen : ℕ) (elems : RtwIeee80211Elems) : M (Bool × RtwIeee80211Elems) :=
  if elen < 4 then pure (false, elems)
  else do
    let oui ← readVec pos 3
    if oui = OUI_MICROSOFT then do
      let type ← read (pos + 3)
      if type = 1 then pure (true, elems.store .wpaIe pos elen)
      else if type = WME_OUI_TYPE then
        if elen < 5 then pure (false, elems)
        else do
          let subtype ← read (pos + 4)
          if subtype = WME_OUI_SUBTYPE_INFORMATION_ELEMENT ∨ subtype = WME_OUI_SUBTYPE_PARAMETER_ELEMENT then
            pure (true, elems.store .wme pos elen)
          else if subtype = WME_OUI_SUBTYPE_TSPEC_ELEMENT then pure (true, elems.store .wmeTspec pos elen)
          else pure (false, elems)
      else if type = 4 then pure (true, elems.store .wpsIe pos elen)
      else pure (false, elems)
    else if oui = OUI_BROADCOM then do
      let type ← read (pos + 3)
      if type = VENDOR_HT_CAPAB_OUI_TYPE then pure (true, elems.store .vendorHtCap pos elen) else pure (false, elems)
    else pure (false, elems)

/-- The cases of the `switch` over the element identifier, that for a vendor's element apart. -/
def elemOfId (id : UInt8) : Option Elem :=
  match id.toNat with
  | 0 => some .ssid
  | 1 => some .suppRates
  | 2 => some .fhParams
  | 3 => some .dsParams
  | 4 => some .cfParams
  | 5 => some .tim
  | 6 => some .ibssParams
  | 16 => some .challenge
  | 33 => some .powerCap
  | 36 => some .suppChannels
  | 42 => some .erpInfo
  | 45 => some .htCapabilities
  | 48 => some .rsnIe
  | 50 => some .extSuppRates
  | 54 => some .mdie
  | 55 => some .ftie
  | 56 => some .timeoutInt
  | 61 => some .htOperation
  | _ => none

def parseElem (id : UInt8) (pos : ℤ) (elen : ℕ) (elems : RtwIeee80211Elems) : M (Bool × RtwIeee80211Elems) :=
  if id = WLAN_EID_VENDOR_SPECIFIC then rtwIeee80211ParseVendorSpecific pos elen elems
  else
    match elemOfId id with
    | some f => pure (true, elems.store f pos elen)
    | none => pure (false, elems)

def parseLoop (pos : ℤ) (left unknown : ℕ) (elems : RtwIeee80211Elems) : M (ParseRes × RtwIeee80211Elems) :=
  if 2 ≤ left then do
    let id ← read pos
    let elen ← read (pos + 1)
    if left - 2 < elen.toNat then pure (.parseFailed, elems)
    else do
      let (known, elems) ← parseElem id (pos + 2) elen.toNat elems
      parseLoop (pos + 2 + elen.toNat) (left - 2 - elen.toNat) (if known then unknown else unknown + 1) elems
  else if left ≠ 0 then pure (.parseFailed, elems)
  else pure (if unknown ≠ 0 then .parseUnknown else .parseOK, elems)
termination_by left

/-- `rtw_ieee802_11_parse_elems`. -/
def rtwIeee80211ParseElems (len : ℕ) : M (ParseRes × RtwIeee80211Elems) := parseLoop 0 len 0 .zero

/-! ## What the parser is for -/

/-- The kinds of elements of vendors, told by the first bytes of the body. -/
def vendorElem (body : List UInt8) : Option Elem :=
  if body.take 4 = [0x00, 0x50, 0xf2, 1] then some .wpaIe
  else if body.take 5 = [0x00, 0x50, 0xf2, 2, 0] ∨ body.take 5 = [0x00, 0x50, 0xf2, 2, 1] then some .wme
  else if body.take 5 = [0x00, 0x50, 0xf2, 2, 2] then some .wmeTspec
  else if body.take 4 = [0x00, 0x50, 0xf2, 4] then some .wpsIe
  else if body.take 4 = [0x00, 0x90, 0x4c, 0x33] then some .vendorHtCap
  else none

/-- The kind of an element, if it is recognised. -/
def elemOf (e : Tlv) : Option Elem := if e.id = WLAN_EID_VENDOR_SPECIFIC then vendorElem e.body else elemOfId e.id

/-- The parser has recorded the last element of each kind, and has told whether all are recognised. -/
structure Recorded (es : List Tlv) (len : ℕ) (out : ParseRes × RtwIeee80211Elems) : Prop where
  last : ∀ pre e post f, es = pre ++ e :: post → elemOf e = some f → (∀ e' ∈ post, elemOf e' ≠ some f) →
    out.2 f = some (((Tlv.encodeAll pre).length : ℤ) + 2, e.body.length)
  absent : ∀ f, (∀ e ∈ es, elemOf e ≠ some f) → out.2 f = none
  inside : ∀ f pos elen, out.2 f = some (pos, elen) → 0 ≤ pos ∧ pos + elen ≤ len
  known : out.1 = if ∀ e ∈ es, elemOf e ≠ none then .parseOK else .parseUnknown

/-! ## One element -/

section
variable {m : Mem} {pos : ℤ} {elen n : ℕ} {elems : RtwIeee80211Elems}

/-- What is done for an element that is recognised, or not. -/
def RtwIeee80211Elems.add (elems : RtwIeee80211Elems) (f : Option Elem) (pos : ℤ) (elen : ℕ) : Bool × RtwIeee80211Elems :=
  match f with
  | some f => (true, elems.store f pos elen)
  | none => (false, elems)

theorem bytesAt_take {k : ℕ} (h : k ≤ elen) : (bytesAt m pos elen).take k = bytesAt m pos k := by
  obtain ⟨r, rfl⟩ := Nat.exists_eq_add_of_le h
  rw [bytesAt_add]
  exact List.take_left' (bytesAt_length k)

theorem bytesAt_four : bytesAt m pos 4 = [m pos, m (pos + 1), m (pos + 2), m (pos + 3)] := by
  show [m (pos + 0), m (pos + 1), m (pos + 2), m (pos + 3)] = _
  rw [add_zero]

theorem bytesAt_five : bytesAt m pos 5 = [m pos, m (pos + 1), m (pos + 2), m (pos + 3), m (pos + 4)] := by
  show [m (pos + 0), m (pos + 1), m (pos + 2), m (pos + 3), m (pos + 4)] = _
  rw [add_zero]

theorem oui_eq_iff (a b c : UInt8) : (Vector.ofFn fun j : Fin 3 => m (pos + (j : ℕ))) = #v[a, b, c] ↔
    m pos = a ∧ m (pos + 1) = b ∧ m (pos + 2) = c := by
  have hbytes : (Vector.ofFn fun j : Fin 3 => m (pos + (j : ℕ))).toList = [m pos, m (pos + 1), m (pos + 2)] := by
    show [m (pos + 0), m (pos + 1), m (pos + 2)] = _
    rw [add_zero]
  rw [← Vector.toList_inj, hbytes]
  show [m pos, m (pos + 1), m (pos + 2)] = [a, b, c] ↔ _
  simp

theorem vendorElem_short (h : elen < 4) : vendorElem (bytesAt m pos elen) = none := by
  have htake (k : ℕ) (hk : 4 ≤ k) : (bytesAt m pos elen).take k = bytesAt m pos elen :=
    List.take_of_length_le (by rw [bytesAt_length]; omega)
  have hne (l : List UInt8) (hl : 4 ≤ l.length) : bytesAt m pos elen ≠ l := by
    intro heq
    have hlength := congrArg List.length heq
    rw [bytesAt_length] at hlength
    omega
  rw [vendorElem, htake 4 le_rfl, htake 5 (by omega), if_neg (hne _ (by simp)), if_neg, if_neg (hne _ (by simp)),
    if_neg (hne _ (by simp)), if_neg (hne _ (by simp))]
  rintro (heq | heq)
  · exact hne _ (by simp) heq
  · exact hne _ (by simp) heq

theorem parseVendorSpecific_val : ((rtwIeee80211ParseVendorSpecific pos elen elems).run m).val =
    elems.add (vendorElem (bytesAt m pos elen)) pos elen := by
  rw [rtwIeee80211ParseVendorSpecific, ite_run]
  by_cases hshort : elen < 4
  · rw [if_pos hshort, vendorElem_short hshort]
    rfl
  have htake5 : (bytesAt m pos elen).take 5 = if elen < 5 then bytesAt m pos 4 else bytesAt m pos 5 := by
    split
    · obtain rfl : elen = 4 := by omega
      exact List.take_of_length_le (by rw [bytesAt_length]; omega)
    · exact bytesAt_take (by omega)
  rw [if_neg hshort, bind_val, readVec_val, readVec_st, vendorElem, bytesAt_take (not_lt.mp hshort), htake5, bytesAt_four,
    bytesAt_five]
  have hmicrosoft : (Vector.ofFn fun j : Fin 3 => m (pos + (j : ℕ))) = OUI_MICROSOFT ↔
      m pos = 0x00 ∧ m (pos + 1) = 0x50 ∧ m (pos + 2) = 0xf2 := oui_eq_iff _ _ _
  have hepigram : (Vector.ofFn fun j : Fin 3 => m (pos + (j : ℕ))) = OUI_BROADCOM ↔
      m pos = 0x00 ∧ m (pos + 1) = 0x90 ∧ m (pos + 2) = 0x4c := oui_eq_iff _ _ _
  by_cases hms : m pos = 0x00 ∧ m (pos + 1) = 0x50 ∧ m (pos + 2) = 0xf2
  · rw [if_pos (hmicrosoft.mpr hms), bind_val, read_val, read_st, hms.1, hms.2.1, hms.2.2]
    by_cases hwpa : m (pos + 3) = 1
    · simp [hwpa, RtwIeee80211Elems.add]
    by_cases hwme : m (pos + 3) = WME_OUI_TYPE
    · rw [if_neg hwpa, if_pos hwme, ite_run]
      have htwo : m (pos + 3) = 2 := hwme
      by_cases hsub : elen < 5
      · simp [hsub, htwo, RtwIeee80211Elems.add]
      · rw [if_neg hsub, if_neg hsub, bind_val, read_val, read_st]
        by_cases hinfo : m (pos + 4) = 0 ∨ m (pos + 4) = 1
        · rw [if_pos (show _ = WME_OUI_SUBTYPE_INFORMATION_ELEMENT ∨ _ = WME_OUI_SUBTYPE_PARAMETER_ELEMENT from hinfo)]
          simp [htwo, hinfo, RtwIeee80211Elems.add]
        · rw [if_neg (show ¬(_ = WME_OUI_SUBTYPE_INFORMATION_ELEMENT ∨ _ = WME_OUI_SUBTYPE_PARAMETER_ELEMENT) from hinfo),
            ite_run]
          by_cases htspec : m (pos + 4) = 2
          · rw [if_pos (show _ = WME_OUI_SUBTYPE_TSPEC_ELEMENT from htspec)]
            simp [htwo, htspec, RtwIeee80211Elems.add]
          · rw [if_neg (show ¬_ = WME_OUI_SUBTYPE_TSPEC_ELEMENT from htspec)]
            simp [htwo, hinfo, htspec, RtwIeee80211Elems.add]
    · have htwo : m (pos + 3) ≠ 2 := hwme
      rw [if_neg hwpa, if_neg hwme, ite_run]
      by_cases hwps : m (pos + 3) = 4
      · by_cases hsub : elen < 5
        · simp [hwps, hsub, RtwIeee80211Elems.add]
        · simp [hwps, hsub, RtwIeee80211Elems.add]
      · by_cases hsub : elen < 5
        · simp [hwpa, hwps, hsub, RtwIeee80211Elems.add]
        · simp [hwpa, htwo, hwps, hsub, RtwIeee80211Elems.add]
  · rw [if_neg (mt hmicrosoft.mp hms), ite_run]
    by_cases hbroadcom : m pos = 0x00 ∧ m (pos + 1) = 0x90 ∧ m (pos + 2) = 0x4c
    · rw [if_pos (hepigram.mpr hbroadcom), bind_val, read_val, read_st, hbroadcom.1, hbroadcom.2.1,
        hbroadcom.2.2]
      by_cases hht : m (pos + 3) = VENDOR_HT_CAPAB_OUI_TYPE
      · have h33 : m (pos + 3) = 0x33 := hht
        rw [if_pos hht, h33]
        by_cases hsub : elen < 5
        · simp [hsub, RtwIeee80211Elems.add]
        · simp [hsub, RtwIeee80211Elems.add]
      · have h33 : m (pos + 3) ≠ 0x33 := hht
        rw [if_neg hht]
        by_cases hsub : elen < 5
        · simp [h33, hsub, RtwIeee80211Elems.add]
        · simp [h33, hsub, RtwIeee80211Elems.add]
    · rw [if_neg (mt hepigram.mp hbroadcom)]
      have hnone (b : UInt8) : [m pos, m (pos + 1), m (pos + 2), m (pos + 3)] ≠ [0x00, 0x50, 0xf2, b] := by
        simp only [ne_eq, List.cons.injEq]
        rintro ⟨h0, h1, h2, -⟩
        exact hms ⟨h0, h1, h2⟩
      have hnone' (b b' : UInt8) : (if elen < 5 then [m pos, m (pos + 1), m (pos + 2), m (pos + 3)]
          else [m pos, m (pos + 1), m (pos + 2), m (pos + 3), m (pos + 4)]) ≠ [0x00, 0x50, 0xf2, b, b'] := by
        split
        · simp
        · simp only [ne_eq, List.cons.injEq]
          rintro ⟨h0, h1, h2, -⟩
          exact hms ⟨h0, h1, h2⟩
      rw [if_neg (hnone 1), if_neg (not_or.mpr ⟨hnone' 2 0, hnone' 2 1⟩), if_neg (hnone' 2 2), if_neg (hnone 4), if_neg]
      · rfl
      · simp only [List.cons.injEq]
        rintro ⟨h0, h1, h2, -⟩
        exact hbroadcom ⟨h0, h1, h2⟩

theorem parseElem_val (id : UInt8) : ((parseElem id pos elen elems).run m).val =
    elems.add (if id = WLAN_EID_VENDOR_SPECIFIC then vendorElem (bytesAt m pos elen) else elemOfId id) pos elen := by
  rw [parseElem, ite_run]
  split
  · exact parseVendorSpecific_val
  · cases elemOfId id with
    | some f => rfl
    | none => rfl

theorem parseElem_st (id : UInt8) : ((parseElem id pos elen elems).run m).st = m := by
  unfold parseElem rtwIeee80211ParseVendorSpecific
  split
  · simp only [ite_run, bind_st, readVec_st, read_st, pure_st, apply_ite Outcome.st, ite_self]
  · split
    · rfl
    · rfl

theorem inside_parseElem (id : UInt8) (hpos : 0 ≤ pos) (hend : pos + elen ≤ n) :
    Inside (fun x => 0 ≤ x ∧ x < (n : ℤ)) (parseElem id pos elen elems) m := by
  unfold parseElem rtwIeee80211ParseVendorSpecific
  rw [inside_ite]
  split
  · by_cases hshort : elen < 4
    · rw [if_pos hshort]
      exact inside_pure _ _ _
    have houi : ∀ j < 3, 0 ≤ pos + (j : ℕ) ∧ pos + (j : ℕ) < (n : ℤ) := fun j hj => by omega
    have htype : 0 ≤ pos + 3 ∧ pos + 3 < (n : ℤ) := by omega
    have hsubtype (h : ¬elen < 5) : 0 ≤ pos + 4 ∧ pos + 4 < (n : ℤ) := by omega
    rw [if_neg hshort]
    simp only [inside_bind, inside_ite, inside_readVec, inside_read, inside_pure, readVec_st, read_st, ite_self, and_true]
    refine ⟨houi, ?_⟩
    split_ifs with _ _ _ h5
    · exact ⟨htype, trivial⟩
    · exact ⟨htype, trivial⟩
    · exact ⟨htype, hsubtype h5⟩
    · exact ⟨htype, trivial⟩
    · exact htype
  · split
    · exact inside_pure _ _ _
    · exact inside_pure _ _ _

/-! ## All elements -/

/-- The fields after the elements from `p` on. -/
def recordAll : ℤ → List Tlv → RtwIeee80211Elems → RtwIeee80211Elems
  | _, [], elems => elems
  | p, e :: es, elems => recordAll (p + e.size) es (elems.add (elemOf e) (p + 2) e.body.length).2

theorem parseLoop_step {left : ℕ} (unknown : ℕ) (h : (tlvAt m pos).size ≤ left) :
    ((parseLoop pos left unknown elems).run m).val = ((parseLoop (pos + (tlvAt m pos).size) (left - (tlvAt m pos).size)
      (if (elemOf (tlvAt m pos)).isSome then unknown else unknown + 1)
        (elems.add (elemOf (tlvAt m pos)) (pos + 2) (tlvAt m pos).body.length).2).run m).val := by
  rw [tlvAt_size] at h
  have hpos : pos + 2 + ((m (pos + 1)).toNat : ℤ) = pos + (((m (pos + 1)).toNat + 2 : ℕ) : ℤ) := by
    push_cast
    ring
  have hleft : left - 2 - (m (pos + 1)).toNat = left - ((m (pos + 1)).toNat + 2) := by omega
  rw [parseLoop, if_pos (by omega), bind_val, bind_val, read_val, read_val, read_st, read_st, if_neg (by omega), bind_val,
    parseElem_val, parseElem_st, tlvAt_size, tlvAt_body_length, hpos, hleft]
  show ((parseLoop _ _ (if (elems.add (elemOf (tlvAt m pos)) _ _).1 then _ else _)
    (elems.add (elemOf (tlvAt m pos)) _ _).2).run m).val = _
  cases elemOf (tlvAt m pos) with
  | some f => rfl
  | none => rfl

theorem parseLoop_list {es : List Tlv} {left : ℕ} (unknown : ℕ) (h : bytesAt m pos left = Tlv.encodeAll es) :
    ((parseLoop pos left unknown elems).run m).val =
      (if unknown + es.countP (fun e => (elemOf e).isNone) ≠ 0 then .parseUnknown else .parseOK,
        recordAll pos es elems) := by
  induction es generalizing pos left unknown elems with
  | nil =>
    obtain rfl := encoding_nil.mp h
    rw [parseLoop, if_neg (by omega), if_neg (by omega)]
    rfl
  | cons e es ih =>
    obtain ⟨rfl, hsize, hrest⟩ := encoding_cons.mp h
    rw [parseLoop_step unknown hsize, ih _ hrest, List.countP_cons]
    cases helem : elemOf (tlvAt m pos) with
    | some f => simp [recordAll, helem]
    | none => simp [recordAll, helem]

theorem parseLoop_failed {left : ℕ} (unknown : ℕ) (h : ¬IsList m pos left) :
    ((parseLoop pos left unknown elems).run m).val.1 = .parseFailed := by
  induction left using Nat.strong_induction_on generalizing pos unknown elems with
  | _ left ih =>
    rw [isList_iff, not_or] at h
    by_cases hsize : (tlvAt m pos).size ≤ left
    · rw [parseLoop_step unknown hsize]
      have htwo : 2 ≤ (tlvAt m pos).size := by
        rw [tlvAt_size]
        omega
      exact ih _ (by omega) _ fun hrest => h.2 ⟨hsize, hrest⟩
    · rw [tlvAt_size] at hsize
      rw [parseLoop]
      by_cases htwo : 2 ≤ left
      · rw [if_pos htwo, bind_val, bind_val, read_val, read_st, read_st, if_pos (by omega)]
        rfl
      · rw [if_neg htwo, if_pos h.1]
        rfl

theorem inside_parseLoop {left : ℕ} (unknown : ℕ) (hpos : 0 ≤ pos) (hend : pos + left = n) :
    Inside (fun x => 0 ≤ x ∧ x < (n : ℤ)) (parseLoop pos left unknown elems) m := by
  induction left using Nat.strong_induction_on generalizing pos unknown elems with
  | _ left ih =>
    rw [parseLoop]
    by_cases htwo : 2 ≤ left
    · rw [if_pos htwo, inside_bind, inside_bind, inside_read, inside_read, read_val, read_st, read_st]
      refine ⟨by omega, by omega, ?_⟩
      by_cases helen : left - 2 < (m (pos + 1)).toNat
      · rw [if_pos helen]
        exact inside_pure _ _ _
      · rw [if_neg helen, inside_bind, parseElem_st]
        refine ⟨inside_parseElem _ (by omega) (by omega), ?_⟩
        exact ih _ (by omega) _ (by omega) (by omega)
    · rw [if_neg htwo, inside_ite]
      split
      · exact inside_pure _ _ _
      · exact inside_pure _ _ _

/-! ## What is recorded -/

theorem recordAll_append (pre post : List Tlv) : recordAll pos (pre ++ post) elems =
    recordAll (pos + (Tlv.encodeAll pre).length) post (recordAll pos pre elems) := by
  induction pre generalizing pos elems with
  | nil =>
    rw [Tlv.encodeAll_nil, List.length_nil, Nat.cast_zero, add_zero]
    rfl
  | cons e pre ih =>
    rw [List.cons_append, recordAll, recordAll, ih, Tlv.encodeAll_cons, List.length_append, Tlv.encode_length, Nat.cast_add,
      add_assoc]

theorem add_of_ne {f : Elem} {o : Option Elem} (h : o ≠ some f) : (elems.add o pos elen).2 f = elems f := by
  cases o with
  | none => rfl
  | some g => exact Function.update_of_ne (fun heq => h (congrArg some heq.symm)) _ _

theorem recordAll_absent {es : List Tlv} {f : Elem} (h : ∀ e ∈ es, elemOf e ≠ some f) :
    recordAll pos es elems f = elems f := by
  induction es generalizing pos elems with
  | nil => rfl
  | cons e es ih =>
    rw [recordAll, ih fun e' he' => h e' (List.mem_cons_of_mem _ he')]
    exact add_of_ne (h e List.mem_cons_self)

theorem recordAll_last {pre post : List Tlv} {e : Tlv} {f : Elem} (he : elemOf e = some f)
    (hpost : ∀ e' ∈ post, elemOf e' ≠ some f) :
    recordAll pos (pre ++ e :: post) elems f = some (pos + (Tlv.encodeAll pre).length + 2, e.body.length) := by
  rw [recordAll_append, recordAll, recordAll_absent hpost, he]
  exact Function.update_self _ _ _

theorem recordAll_inside {es : List Tlv} {f : Elem} {q : ℤ} {len : ℕ} (h : recordAll pos es elems f = some (q, len)) :
    elems f = some (q, len) ∨ pos ≤ q ∧ q + len ≤ pos + (Tlv.encodeAll es).length := by
  induction es generalizing pos elems with
  | nil => exact .inl h
  | cons e es ih =>
    have hlength : (Tlv.encodeAll (e :: es)).length = e.body.length + 2 + (Tlv.encodeAll es).length := by
      rw [Tlv.encodeAll_cons, List.length_append]
      rfl
    have hsize : e.size = e.body.length + 2 := rfl
    rcases ih h with hadd | hrest
    · by_cases he : elemOf e = some f
      · rw [he] at hadd
        replace hadd : Function.update elems f (some (pos + 2, e.body.length)) f = some (q, len) := hadd
        rw [Function.update_self] at hadd
        simp only [Option.some.injEq, Prod.mk.injEq] at hadd
        exact .inr (by omega)
      · exact .inl ((add_of_ne he).symm.trans hadd)
    · exact .inr (by omega)

/-- The parser reads nothing outside the buffer, fails exactly when the buffer is no list of elements, and otherwise
records the list. -/
theorem parseElems_exact (len : ℕ) : Inside (fun x => 0 ≤ x ∧ x < (len : ℤ)) (rtwIeee80211ParseElems len) m ∧
    (((rtwIeee80211ParseElems len).run m).val.1 = .parseFailed ↔ ¬∃ es, bytesAt m 0 len = Tlv.encodeAll es) ∧
      ∀ es, bytesAt m 0 len = Tlv.encodeAll es → Recorded es len ((rtwIeee80211ParseElems len).run m).val := by
  have hrecorded : ∀ es, bytesAt m 0 len = Tlv.encodeAll es →
      Recorded es len ((rtwIeee80211ParseElems len).run m).val ∧
        ((rtwIeee80211ParseElems len).run m).val.1 ≠ .parseFailed := by
    intro es hes
    have hlen : (Tlv.encodeAll es).length = len := by
      rw [← hes, bytesAt_length]
    rw [rtwIeee80211ParseElems, parseLoop_list 0 hes]
    constructor
    · constructor
      · rintro pre e post f rfl he hpost
        have hlast : recordAll 0 (pre ++ e :: post) .zero f =
            some ((0 : ℤ) + (Tlv.encodeAll pre).length + 2, e.body.length) :=
          recordAll_last he hpost
        rwa [zero_add] at hlast
      · intro f hf
        exact recordAll_absent hf
      · intro f pos elen hf
        rcases recordAll_inside hf with hzero | hinside
        · exact absurd hzero.symm (Option.some_ne_none _)
        · omega
      · dsimp only
        rw [zero_add]
        by_cases hall : ∀ e ∈ es, elemOf e ≠ none
        · have hcount : es.countP (fun e => (elemOf e).isNone) = 0 := by
            rw [List.countP_eq_zero]
            intro e he hnone
            exact hall e he (Option.isNone_iff_eq_none.mp hnone)
          rw [if_pos hall, if_neg (not_not.mpr hcount)]
        · have hcount : es.countP (fun e => (elemOf e).isNone) ≠ 0 := by
            rw [ne_eq, List.countP_eq_zero]
            intro hsome
            exact hall fun e he hnone => hsome e he (Option.isNone_iff_eq_none.mpr hnone)
          rw [if_neg hall, if_pos hcount]
    · dsimp only
      split
      · exact ParseRes.noConfusion
      · exact ParseRes.noConfusion
  refine ⟨inside_parseLoop 0 le_rfl (zero_add _), ?_, fun es hes => (hrecorded es hes).1⟩
  constructor
  · rintro hfailed ⟨es, hes⟩
    exact (hrecorded es hes).2 hfailed
  · exact parseLoop_failed 0

end

end Rtl8723au.Ieee80211
