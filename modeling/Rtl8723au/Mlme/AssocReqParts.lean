import Rtl8723au.Mlme.AssocReq

/-! What the parts of `issue_assocreq` put into the frame, what they read, and what they leave as it was. -/
namespace Rtl8723au
open Mem Security Tlv AccessM
set_option autoImplicit false

namespace AssocReq

variable {P : AssocReqAddr → Prop} {s : AssocReqMem}

/-! ## Elements put at the end of the frame -/

/-- The frame has grown by the elements. -/
structure Adds (l : List Tlv) (s t : AssocReqMem) : Prop where
  pframe : t.pframe = s.pframe ++ encodeAll l
  pktlen : t.pktlen = s.pktlen + (encodeAll l).length

theorem Adds.refl (s : AssocReqMem) : Adds [] s s :=
  ⟨by rw [encodeAll_nil, List.append_nil], rfl⟩

theorem Adds.trans {l l' : List Tlv} {s t u : AssocReqMem} (h : Adds l s t) (h' : Adds l' t u) : Adds (l ++ l') s u := by
  refine ⟨?_, ?_⟩
  · rw [h'.pframe, h.pframe, encodeAll_append, List.append_assoc]
  · rw [h'.pktlen, h.pktlen, encodeAll_append, List.length_append, Nat.add_assoc]

/-- `rtw_set_ie` with a body that a length byte can count. -/
theorem rtwSetIe_adds (e : Tlv) : Adds [e] s ((rtwSetIe e.id e.body).run s).st := by
  have hone : encodeAll [e] = e.encode := by
    rw [encodeAll_cons, encodeAll_nil, List.append_nil]
  refine ⟨?_, ?_⟩
  · rw [hone]
    rfl
  · rw [hone]
    rfl

theorem inside_rtwSetIe (index : UInt8) (source : List UInt8) : Inside P (rtwSetIe index source) s :=
  inside_modify P _ s

/-! ## Rates -/

/-- The entries of `SupportedRates` before the first zero. -/
def upToZero (rates : List UInt8) : List UInt8 := rates.takeWhile (· != 0)

section Rates
variable {sta : List UInt8}

/-- The rates of the network that the loop keeps. -/
def kept (sta rates : List UInt8) : List UInt8 := (upToZero rates).filter (supports sta)

theorem kept_cons_zero (rates : List UInt8) : kept sta (0 :: rates) = [] := rfl

theorem kept_cons {rate : UInt8} (h : rate ≠ 0) (rates : List UInt8) :
    kept sta (rate :: rates) = if supports sta rate then rate :: kept sta rates else kept sta rates := by
  rw [kept, upToZero, List.takeWhile_cons, if_pos (by simpa using h), List.filter_cons]
  rfl

theorem joinRates_spec (sta rates : List UInt8) (index : ℕ) :
    ((joinRates sta rates index).run s).val = index + (kept sta rates).length ∧
    ((joinRates sta rates index).run s).st = { s with bssrate := putBytes s.bssrate index (kept sta rates) } ∧
    (Inside P (joinRates sta rates index) s ↔ ∀ k < (kept sta rates).length, P (.bssrate (index + k : ℕ))) := by
  induction rates generalizing index s with
  | nil =>
    refine ⟨rfl, ?_, ?_⟩
    · show s = { s with bssrate := putBytes s.bssrate index [] }
      rw [putBytes_nil]
    · exact iff_of_true (inside_pure P index s) fun k hk => absurd hk (Nat.not_lt_zero k)
  | cons rate rates ih =>
    by_cases hzero : rate = 0
    · rw [hzero, kept_cons_zero]
      refine ⟨rfl, ?_, ?_⟩
      · show s = { s with bssrate := putBytes s.bssrate index [] }
        rw [putBytes_nil]
      · exact iff_of_true (inside_pure P index s) fun k hk => absurd hk (Nat.not_lt_zero k)
    rw [kept_cons hzero]
    by_cases hsup : supports sta rate = true
    · have hrun : (joinRates sta (rate :: rates) index) = (do
          poke bssratePart index rate
          joinRates sta rates (index + 1)) := by
        rw [joinRates, if_neg hzero, if_pos hsup]
      obtain ⟨hval, hst, hinside⟩ := ih (s := ((poke bssratePart index rate).run s).st) (index + 1)
      rw [hrun, if_pos hsup]
      refine ⟨?_, ?_, ?_⟩
      · rw [bind_val, hval, List.length_cons]
        omega
      · rw [bind_st, hst]
        have happend := putBytes_append s.bssrate index [rate] (kept sta rates)
        have hone : putBytes s.bssrate index [rate] = Function.update s.bssrate index rate := by
          funext x
          by_cases hx : x = index
          · rw [hx, Function.update_self]
            exact (congrArg _ (add_zero (index : ℤ)).symm).trans (putBytes_inside s.bssrate index [rate] 0 Nat.zero_lt_one)
          · rw [Function.update_of_ne hx, putBytes_outside _ _ _ _ (by rw [List.length_singleton]; omega)]
        rw [hone] at happend
        show { s with bssrate := putBytes (Function.update s.bssrate index rate) ((index + 1 : ℕ) : ℤ) (kept sta rates) } = _
        rw [Nat.cast_add]
        exact congrArg (fun m => { s with bssrate := m }) happend
      · rw [inside_bind, hinside, inside_poke, List.length_cons]
        constructor
        · rintro ⟨hfirst, hrest⟩ k hk
          cases k with
          | zero => exact hfirst
          | succ k =>
            have h := hrest k (by omega)
            rwa [show index + (k + 1) = index + 1 + k by omega]
        · intro h
          refine ⟨h 0 (by omega), fun k hk => ?_⟩
          have hnext := h (k + 1) (by omega)
          rwa [show index + (k + 1) = index + 1 + k by omega] at hnext
    · have hrun : (joinRates sta (rate :: rates) index) = joinRates sta rates index := by
        rw [joinRates, if_neg hzero, if_neg hsup]
      rw [hrun, if_neg hsup]
      exact ih index

def rateElements (rates : List UInt8) : List (UInt8 × List UInt8) :=
  if 8 < rates.length then [(_SUPPORTEDRATES_IE_, rates.take 8), (_EXT_SUPPORTEDRATES_IE_, rates.drop 8)]
  else [(_SUPPORTEDRATES_IE_, rates)]

def pair (e : Tlv) : UInt8 × List UInt8 := (e.id, e.body)

theorem setRates_adds {rates : List UInt8} (hbytes : bytesAt s.bssrate 0 rates.length = rates) (hlen : rates.length ≤ 16) :
    ∃ l, Adds l s ((setRates rates.length).run s).st ∧ l.map pair = rateElements rates := by
  unfold setRates rateElements
  by_cases hlong : 8 < rates.length
  · rw [if_pos hlong, if_pos hlong]
    have htake : (rates.take 8).length = 8 := by
      rw [List.length_take]
      omega
    have hdrop : (rates.drop 8).length = rates.length - 8 := List.length_drop
    have hsplit : bytesAt s.bssrate 0 8 ++ bytesAt s.bssrate 8 (rates.length - 8) = rates.take 8 ++ rates.drop 8 := by
      have hadd := bytesAt_add (m := s.bssrate) (p := 0) 8 (rates.length - 8)
      rw [show 8 + (rates.length - 8) = rates.length by omega, hbytes] at hadd
      rw [List.take_append_drop]
      exact hadd.symm
    obtain ⟨hfirst, hsecond⟩ := List.append_inj hsplit (by rw [bytesAt_length, htake])
    refine ⟨[⟨_SUPPORTEDRATES_IE_, rates.take 8, by omega⟩, ⟨_EXT_SUPPORTEDRATES_IE_, rates.drop 8, by omega⟩], ?_, rfl⟩
    have hone := rtwSetIe_adds (s := s) ⟨_SUPPORTEDRATES_IE_, rates.take 8, by omega⟩
    have htwo := rtwSetIe_adds (s := ((rtwSetIe _SUPPORTEDRATES_IE_ (rates.take 8)).run s).st)
      ⟨_EXT_SUPPORTEDRATES_IE_, rates.drop 8, by omega⟩
    show Adds _ s ((rtwSetIe _EXT_SUPPORTEDRATES_IE_ (bytesAt s.bssrate 8 (rates.length - 8))).run
      ((rtwSetIe _SUPPORTEDRATES_IE_ (bytesAt s.bssrate 0 8)).run s).st).st
    rw [hfirst, hsecond]
    exact hone.trans htwo
  · rw [if_neg hlong, if_neg hlong]
    refine ⟨[⟨_SUPPORTEDRATES_IE_, rates, by omega⟩], ?_, rfl⟩
    show Adds _ s ((rtwSetIe _SUPPORTEDRATES_IE_ (bytesAt s.bssrate 0 rates.length)).run s).st
    rw [hbytes]
    exact rtwSetIe_adds _

theorem setRates_ies (n : ℕ) : ((setRates n).run s).st.ies = s.ies := by
  unfold setRates
  split <;> rfl

theorem inside_setRates {n : ℕ} (h : ∀ k < n, P (.bssrate (k : ℕ))) : Inside P (setRates n) s := by
  unfold setRates
  split
  · rw [inside_bind, inside_bind, inside_bind, inside_peekList, inside_peekList]
    refine ⟨fun k hk => ?_, inside_rtwSetIe _ _, fun k hk => ?_, inside_rtwSetIe _ _⟩
    · show P (.bssrate (0 + k))
      rw [zero_add]
      exact h k (by omega)
    · have haddr : (8 : ℤ) + k = ((8 + k : ℕ) : ℤ) := by
        push_cast
        rfl
      show P (.bssrate (8 + k))
      rw [haddr]
      exact h (8 + k) (by omega)
  · rw [inside_bind, inside_peekList]
    refine ⟨fun k hk => ?_, inside_rtwSetIe _ _⟩
    show P (.bssrate (0 + k))
    rw [zero_add]
    exact h k hk

end Rates

/-! ## The regions -/

/-- The elements of the record and the array of thirteen rates. -/
def InBounds (ieLength : ℕ) : AssocReqAddr → Prop
  | .ies x => 0 ≤ x ∧ x < ieLength
  | .bssrate x => 0 ≤ x ∧ x < 13
  | .htCaps _ => True

section Elements
variable {es : List Tlv} {ieLength : ℕ}

theorem inside_ies_block {i : ℤ} {n : ℕ} (hi : 0 ≤ i) (h : i + n ≤ ieLength) :
    Inside (InBounds ieLength) (peekList iesPart i n) s := by
  rw [inside_peekList]
  intro k hk
  exact ⟨by omega, by omega⟩

theorem ies_block_le {i : ℤ} {n : ℕ} (hn : 0 < n) (h : Inside (InBounds ieLength) (peekList iesPart i n) s) :
    i + n ≤ ieLength := by
  rw [inside_peekList] at h
  have hlast : 0 ≤ i + ((n - 1 : ℕ) : ℤ) ∧ i + ((n - 1 : ℕ) : ℤ) < ieLength := h (n - 1) (by omega)
  omega

theorem getIe_st (pbuf : ℤ) (index : UInt8) (limit : ℤ) : ((zoom iesPart (rtwGetIe pbuf index limit)).run s).st = s := by
  rw [zoom_st, rtwGetIe_st]
  rfl

variable (hes : bytesAt s.ies _FIXED_IE_LENGTH_ (encodeAll es).length = encodeAll es)
  (hlen : ieLength = _FIXED_IE_LENGTH_ + (encodeAll es).length)
include hes hlen

theorem inside_getIe (index : UInt8) :
    Inside (InBounds ieLength) (zoom iesPart (rtwGetIe _FIXED_IE_LENGTH_ index ((ieLength : ℤ) - _FIXED_IE_LENGTH_))) s := by
  have hlimit : (ieLength : ℤ) - _FIXED_IE_LENGTH_ = (encodeAll es).length := by omega
  rw [inside_zoom, hlimit]
  intro x hx
  have hx := inside_rtwGetIe hes x hx
  exact ⟨by omega, by omega⟩

theorem getIe_room {index : UInt8} {p : ℤ} {n : ℕ}
    (hfound : ((rtwGetIe _FIXED_IE_LENGTH_ index ((ieLength : ℤ) - _FIXED_IE_LENGTH_)).run s.ies).val = some (p, n)) :
    0 ≤ p ∧ p + 2 + n ≤ ieLength ∧ n < 256 := by
  have hlimit : (ieLength : ℤ) - _FIXED_IE_LENGTH_ = (encodeAll es).length := by omega
  rw [hlimit] at hfound
  rcases rtwGetIe_cases hes index with ⟨-, hnone⟩ | ⟨pre, e, post, heq, -, hsome⟩
  · rw [hnone] at hfound
    exact absurd hfound.symm (Option.some_ne_none _)
  · rw [hsome] at hfound
    obtain ⟨rfl, rfl⟩ := Prod.mk.inj (Option.some.inj hfound)
    have htotal : (encodeAll es).length = (encodeAll pre).length + (e.body.length + 2 + (encodeAll post).length) := by
      rw [heq, encodeAll_append, encodeAll_cons, List.length_append, List.length_append, encode_length, size]
    have hshort := e.short
    exact ⟨by omega, by omega, hshort⟩

theorem setRsn_adds : ∃ l, Adds l s ((setRsn ieLength).run s).st ∧ ∀ e ∈ l, e.id = _RSN_IE_2_ := by
  unfold setRsn
  rw [bind_st, getIe_st, zoom_val]
  split
  · exact ⟨[], .refl s, fun e he => absurd he List.not_mem_nil⟩
  · rename_i p len hfound
    obtain ⟨-, -, hshort⟩ := getIe_room hes hlen hfound
    refine ⟨[⟨_RSN_IE_2_, bytesAt s.ies (p + 2) len, by rw [bytesAt_length]; exact hshort⟩], rtwSetIe_adds _, ?_⟩
    intro e he
    rw [List.mem_singleton.mp he]

theorem inside_setRsn : Inside (InBounds ieLength) (setRsn ieLength) s := by
  unfold setRsn
  rw [inside_bind, getIe_st, zoom_val]
  refine ⟨inside_getIe hes hlen _, ?_⟩
  split
  · exact inside_pure _ _ _
  · rename_i p len hfound
    obtain ⟨hp, hroom, -⟩ := getIe_room hes hlen hfound
    rw [inside_bind]
    exact ⟨inside_ies_block (by omega) (by omega), inside_rtwSetIe _ _⟩

omit hes hlen in
theorem setRsn_ies : ((setRsn ieLength).run s).st.ies = s.ies := by
  unfold setRsn
  rw [bind_st, getIe_st, zoom_val]
  split <;> rfl

end Elements

/-! ## The search for TKIP -/

theorem tkipAt_st (id : UInt8) (i : ℤ) (m : Mem) : ((tkipAt id i).run m).st = m := by
  unfold tkipAt
  split
  · rw [bind_st]
    split <;> rfl
  split <;> rfl

/-- The element at `i` names TKIP. -/
def tkipMatch (m : Mem) (id : UInt8) (i : ℤ) : Bool := ((tkipAt id i).run m).val

theorem inside_tkipAt (Q : ℤ → Prop) (id : UInt8) (i : ℤ) (m : Mem) :
    Inside Q (tkipAt id i) m ↔
      (id = _VENDOR_SPECIFIC_IE_ → (∀ k < 4, Q (i + 2 + (k : ℕ))) ∧
        (bytesAt m (i + 2) 4 = RTW_WPA_OUI → ∀ k < 4, Q (i + 2 + 12 + (k : ℕ)))) ∧
      (id = _RSN_IE_2_ → ∀ k < 4, Q (i + 2 + 8 + (k : ℕ))) := by
  unfold tkipAt
  by_cases hvendor : id = _VENDOR_SPECIFIC_IE_
  · have hrsn : id ≠ _RSN_IE_2_ := by
      rw [hvendor]
      decide
    rw [if_pos hvendor, inside_bind, inside_peekList, inside_ite]
    simp only [hvendor, true_implies, whole_addr]
    refine ⟨fun h => ⟨⟨h.1, fun houi => ?_⟩, fun hid => absurd hid (by decide)⟩, fun h => ⟨h.1.1, ?_⟩⟩
    · have hcipher := h.2
      rw [if_pos (show ((peekList whole (i + 2) 4).run m).val = RTW_WPA_OUI from houi), inside_bind,
        inside_peekList] at hcipher
      exact hcipher.1
    · split
      · rename_i houi
        rw [inside_bind, inside_peekList]
        exact ⟨h.1.2 houi, inside_pure _ _ _⟩
      · exact inside_pure _ _ _
  · rw [if_neg hvendor, inside_ite]
    split
    · rename_i hrsn
      rw [inside_bind, inside_peekList]
      exact ⟨fun h => ⟨fun hid => absurd hid hvendor, fun _ => h.1⟩, fun h => ⟨h.2 hrsn, inside_pure _ _ _⟩⟩
    · rename_i hrsn
      exact iff_of_true (inside_pure _ _ _) ⟨fun hid => absurd hid hvendor, fun hid => absurd hid hrsn⟩

/-- Up to the first element that names TKIP, what the search looks at is in the record. -/
def TkipRoom (ies : Mem) (ieLength : ℕ) : ℤ → List Tlv → Prop
  | _, [] => True
  | i, e :: rest =>
    (e.id = _VENDOR_SPECIFIC_IE_ → i + 6 ≤ ieLength ∧ (bytesAt ies (i + 2) 4 = RTW_WPA_OUI → i + 18 ≤ ieLength)) ∧
    (e.id = _RSN_IE_2_ → i + 14 ≤ ieLength) ∧
    (tkipMatch ies e.id i = false → TkipRoom ies ieLength (i + e.size) rest)

section Tkip
variable {m : Mem} {ieLength : ℕ}

theorem inside_tkipWalk (es : List Tlv) (fuel : ℕ) (i : ℤ) (hfuel : es.length ≤ fuel) (hi : 0 ≤ i)
    (hlen : i + (encodeAll es).length = ieLength) (hes : bytesAt m i (encodeAll es).length = encodeAll es) :
    Inside (fun x => 0 ≤ x ∧ x < (ieLength : ℤ)) (walk whole tkipAt ieLength fuel i) m ↔ TkipRoom m ieLength i es := by
  induction es generalizing fuel i with
  | nil =>
    rw [walk_end (by rw [encodeAll_nil, List.length_nil] at hlen; omega)]
    exact iff_of_true (inside_pure _ _ _) trivial
  | cons e rest ih =>
    obtain ⟨fuel, rfl⟩ : ∃ n, fuel = n + 1 := ⟨fuel - 1, by rw [List.length_cons] at hfuel; omega⟩
    obtain ⟨hid, hcount, hrest⟩ := encode_at hes
    rw [encodeAll_cons, List.length_append, encode_length] at hlen
    push_cast at hlen
    have hsize : 2 ≤ e.size := by
      rw [size]
      omega
    have hlt : i < (ieLength : ℤ) := by omega
    have hrest' := ih fuel (i + e.size) (by rw [List.length_cons] at hfuel; omega) (by omega) (by omega) hrest
    have hvisit : Inside (fun x => 0 ≤ x ∧ x < (ieLength : ℤ)) (tkipAt e.id i) m ↔
        (e.id = _VENDOR_SPECIFIC_IE_ → i + 6 ≤ ieLength ∧ (bytesAt m (i + 2) 4 = RTW_WPA_OUI → i + 18 ≤ ieLength)) ∧
        (e.id = _RSN_IE_2_ → i + 14 ≤ ieLength) := by
      rw [inside_tkipAt, block_inside_iff _ _ _ 4 (by decide), block_inside_iff _ _ _ 4 (by decide),
        block_inside_iff _ _ _ 4 (by decide)]
      have h6 : (0 ≤ i + 2 ∧ i + 2 + (4 : ℕ) ≤ (ieLength : ℤ)) ↔ i + 6 ≤ ieLength := by omega
      have h18 : (0 ≤ i + 2 + 12 ∧ i + 2 + 12 + (4 : ℕ) ≤ (ieLength : ℤ)) ↔ i + 18 ≤ ieLength := by omega
      have h14 : (0 ≤ i + 2 + 8 ∧ i + 2 + 8 + (4 : ℕ) ≤ (ieLength : ℤ)) ↔ i + 14 ≤ ieLength := by omega
      rw [h6, h18, h14]
    rw [TkipRoom, ← and_assoc, ← hvisit]
    by_cases hmatch : tkipMatch m e.id i = true
    · rw [inside_walk_found hlt hid _ hmatch]
      constructor
      · rintro ⟨-, h⟩
        exact ⟨h, fun hfalse => absurd (hmatch.symm.trans hfalse) (by decide)⟩
      · rintro ⟨h, -⟩
        exact ⟨⟨hi, hlt⟩, h⟩
    · rw [Bool.not_eq_true] at hmatch
      have hsame : (visited tkipAt e i m).st = m := tkipAt_st _ _ _
      rw [inside_walk_next hlt hid hmatch (by rw [hsame]; exact hcount), hsame, hrest']
      constructor
      · rintro ⟨-, h, -, hroom⟩
        exact ⟨h, fun _ => hroom⟩
      · rintro ⟨h, hroom⟩
        refine ⟨⟨hi, hlt⟩, h, ?_, hroom hmatch⟩
        show 0 ≤ i + 1 ∧ i + 1 < (ieLength : ℤ)
        omega

theorem walk_tkipAt_st (fuel : ℕ) (i : ℤ) : ((walk whole tkipAt ieLength fuel i).run m).st = m := by
  induction fuel generalizing i with
  | zero => rfl
  | succ fuel ih =>
    by_cases hi : i < (ieLength : ℤ)
    · rw [walk_pass hi, bind_st, bind_st, peek_st, tkipAt_st, ite_run]
      split
      · rfl
      · rw [bind_st, peek_st]
        exact ih _
    · rw [walk_end (by omega)]
      rfl

theorem isApInTkip_st : ((isApInTkip ieLength).run m).st = m := by
  unfold isApInTkip
  rw [bind_st, ite_run]
  split
  · exact walk_tkipAt_st _ _
  · rfl

end Tkip

/-! ## HT -/

/-- Where the request takes the HT element over, the search for TKIP and the copy stay in the record. -/
def HtRoom (a : AssocReqInfo) (ies : Mem) (ieLength : ℕ) (es : List Tlv) : Prop :=
  a.htOption = true → ∀ p len,
    ((rtwGetIe _FIXED_IE_LENGTH_ _HT_CAPABILITY_IE_ ((ieLength : ℤ) - _FIXED_IE_LENGTH_)).run ies).val = some (p, len) →
      (Wifi.le16 ies 10 &&& WLAN_CAPABILITY_PRIVACY ≠ 0 → TkipRoom ies ieLength _FIXED_IE_LENGTH_ es) ∧
      (((isApInTkip ieLength).run ies).val = false → p + 2 + sizeofHTCapsElement ≤ ieLength)

section Ht
variable {a : AssocReqInfo} {es : List Tlv} {ieLength : ℕ}

/-- What `issue_assocreq` does with an HT element at `p`. -/
def takeHtCaps (a : AssocReqInfo) (ieLength : ℕ) (p : ℤ) (len : ℕ) : R Unit := do
  if ← zoom iesPart (isApInTkip ieLength) then pure ()
  else do
    let caps ← peekList iesPart (p + 2) sizeofHTCapsElement
    modify fun s => { s with htCaps := updateHtCaps a (putBytes s.htCaps 0 caps) }
    rtwSetIe _HT_CAPABILITY_IE_ (← peekList htCapsPart 0 len)

theorem setHtCaps_run (h : a.htOption = true) :
    (setHtCaps a ieLength).run s = (do
      match ← zoom iesPart (rtwGetIe _FIXED_IE_LENGTH_ _HT_CAPABILITY_IE_ ((ieLength : ℤ) - _FIXED_IE_LENGTH_)) with
      | none => pure ()
      | some (p, len) => takeHtCaps a ieLength p len : R Unit).run s := by
  have hcaps : setHtCaps a ieLength = _ := if_pos h
  exact congrArg (fun m : R Unit => m.run s) hcaps

theorem isApInTkip_zoom_st : ((zoom iesPart (isApInTkip ieLength)).run s).st = s :=
  congrArg (fun m => iesPart.set m s) isApInTkip_st

theorem takeHtCaps_adds {p : ℤ} {len : ℕ} (hshort : len < 256) :
    ∃ l, Adds l s ((takeHtCaps a ieLength p len).run s).st ∧ ∀ e ∈ l, e.id = _HT_CAPABILITY_IE_ := by
  unfold takeHtCaps
  rw [bind_st, isApInTkip_zoom_st, ite_run]
  split
  · exact ⟨[], .refl s, fun e he => absurd he List.not_mem_nil⟩
  · let t : AssocReqMem :=
      { s with htCaps := updateHtCaps a (putBytes s.htCaps 0 (bytesAt s.ies (p + 2) sizeofHTCapsElement)) }
    have hadds : Adds [⟨_HT_CAPABILITY_IE_, bytesAt t.htCaps 0 len, by rw [bytesAt_length]; exact hshort⟩] t
        ((rtwSetIe _HT_CAPABILITY_IE_ (bytesAt t.htCaps 0 len)).run t).st := rtwSetIe_adds _
    refine ⟨_, ⟨hadds.pframe, hadds.pktlen⟩, ?_⟩
    intro e he
    rw [List.mem_singleton.mp he]

theorem takeHtCaps_ies (p : ℤ) (len : ℕ) : ((takeHtCaps a ieLength p len).run s).st.ies = s.ies := by
  unfold takeHtCaps
  rw [bind_st, isApInTkip_zoom_st, ite_run]
  split <;> rfl

theorem setHtCaps_ies : ((setHtCaps a ieLength).run s).st.ies = s.ies := by
  by_cases h : a.htOption = true
  · rw [setHtCaps_run h, bind_st, getIe_st, zoom_val]
    split
    · rfl
    · exact takeHtCaps_ies _ _
  · unfold setHtCaps
    rw [if_neg h]
    rfl

variable (hes : bytesAt s.ies _FIXED_IE_LENGTH_ (encodeAll es).length = encodeAll es)
  (hlen : ieLength = _FIXED_IE_LENGTH_ + (encodeAll es).length)
include hes hlen

theorem setHtCaps_adds : ∃ l, Adds l s ((setHtCaps a ieLength).run s).st ∧ ∀ e ∈ l, e.id = _HT_CAPABILITY_IE_ := by
  by_cases h : a.htOption = true
  · rw [setHtCaps_run h, bind_st, getIe_st, zoom_val]
    show ∃ l, Adds l s ((match ((rtwGetIe _FIXED_IE_LENGTH_ _HT_CAPABILITY_IE_
        ((ieLength : ℤ) - _FIXED_IE_LENGTH_)).run s.ies).val with
      | none => (pure () : R Unit)
      | some (p, len) => takeHtCaps a ieLength p len).run s).st ∧ _
    split
    · exact ⟨[], .refl s, fun e he => absurd he List.not_mem_nil⟩
    · rename_i p len hfound
      exact takeHtCaps_adds (getIe_room hes hlen hfound).2.2
  · unfold setHtCaps
    rw [if_neg h]
    exact ⟨[], .refl s, fun e he => absurd he List.not_mem_nil⟩

theorem inside_isApInTkip :
    Inside (InBounds ieLength) (zoom iesPart (isApInTkip ieLength)) s ↔
      (Wifi.le16 s.ies 10 &&& WLAN_CAPABILITY_PRIVACY ≠ 0 → TkipRoom s.ies ieLength _FIXED_IE_LENGTH_ es) := by
  have hcount := length_le_encodeAll es
  have hwalk : Inside (fun x => 0 ≤ x ∧ x < (ieLength : ℤ)) (walk whole tkipAt ieLength ieLength _FIXED_IE_LENGTH_) s.ies ↔
      TkipRoom s.ies ieLength _FIXED_IE_LENGTH_ es :=
    inside_tkipWalk es ieLength _FIXED_IE_LENGTH_ (by omega) (by omega) (by omega) hes
  rw [inside_zoom]
  show Inside (fun x => 0 ≤ x ∧ x < (ieLength : ℤ)) (isApInTkip ieLength) s.ies ↔ _
  unfold isApInTkip
  rw [inside_bind, Wifi.inside_readLe16, inside_ite]
  have hcap : ((0 : ℤ) ≤ 10 ∧ (10 : ℤ) < ieLength) ∧ ((0 : ℤ) ≤ 10 + 1 ∧ (10 : ℤ) + 1 < ieLength) := by
    have h12 : _FIXED_IE_LENGTH_ = 12 := rfl
    omega
  constructor
  · rintro ⟨-, h⟩ hprivacy
    rw [if_pos (show ((Wifi.readLe16 10).run s.ies).val &&& WLAN_CAPABILITY_PRIVACY ≠ 0 from hprivacy)] at h
    exact hwalk.mp h
  · intro h
    refine ⟨hcap, ?_⟩
    split
    · rename_i hprivacy
      exact hwalk.mpr (h hprivacy)
    · exact inside_pure _ _ _

theorem inside_takeHtCaps {p : ℤ} {len : ℕ} (hp : 0 ≤ p) :
    Inside (InBounds ieLength) (takeHtCaps a ieLength p len) s ↔
      (Wifi.le16 s.ies 10 &&& WLAN_CAPABILITY_PRIVACY ≠ 0 → TkipRoom s.ies ieLength _FIXED_IE_LENGTH_ es) ∧
      (((isApInTkip ieLength).run s.ies).val = false → p + 2 + sizeofHTCapsElement ≤ ieLength) := by
  unfold takeHtCaps
  rw [inside_bind, inside_isApInTkip hes hlen, isApInTkip_zoom_st, zoom_val, inside_ite]
  refine and_congr_right fun _ => ?_
  show (if ((isApInTkip ieLength).run s.ies).val = true then _ else _) ↔ _
  split
  · rename_i htkip
    exact iff_of_true (inside_pure _ _ _) fun hfalse => absurd (htkip.symm.trans hfalse) (by decide)
  · rename_i htkip
    rw [Bool.not_eq_true] at htkip
    simp only [htkip, true_implies]
    rw [inside_bind, inside_bind, inside_bind]
    constructor
    · rintro ⟨h, -⟩
      exact ies_block_le (by decide) h
    · intro h
      refine ⟨inside_ies_block (by omega) h, inside_modify _ _ _, ?_, inside_rtwSetIe _ _⟩
      rw [inside_peekList]
      exact fun _ _ => trivial

theorem inside_setHtCaps : Inside (InBounds ieLength) (setHtCaps a ieLength) s ↔ HtRoom a s.ies ieLength es := by
  unfold HtRoom
  by_cases h : a.htOption = true
  · simp only [h, true_implies]
    unfold Inside
    rw [setHtCaps_run h]
    show Inside _ (do
      match ← zoom iesPart (rtwGetIe _FIXED_IE_LENGTH_ _HT_CAPABILITY_IE_ ((ieLength : ℤ) - _FIXED_IE_LENGTH_)) with
      | none => pure ()
      | some (p, len) => takeHtCaps a ieLength p len) s ↔ _
    rw [inside_bind, getIe_st, zoom_val]
    have hsearch := inside_getIe hes hlen _HT_CAPABILITY_IE_
    constructor
    · rintro ⟨-, h⟩ p len hfound
      have hfound' : ((rtwGetIe _FIXED_IE_LENGTH_ _HT_CAPABILITY_IE_
        ((ieLength : ℤ) - _FIXED_IE_LENGTH_)).run (iesPart.get s)).val = some (p, len) := hfound
      rw [hfound'] at h
      exact (inside_takeHtCaps hes hlen (getIe_room hes hlen hfound).1).mp h
    · intro h
      refine ⟨hsearch, ?_⟩
      split
      · exact inside_pure _ _ _
      · rename_i p len hfound
        exact (inside_takeHtCaps hes hlen (getIe_room hes hlen hfound).1).mpr (h p len hfound)
  · unfold setHtCaps
    rw [if_neg h]
    exact iff_of_true (inside_pure _ _ _) fun hopt => absurd hopt h

end Ht

end AssocReq

end Rtl8723au
