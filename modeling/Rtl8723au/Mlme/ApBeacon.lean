import Rtl8723au.Mlme.ApFrameBuild

/-! `issue_beacon`: when the beacon that it sends is the one it should. -/
namespace Rtl8723au
namespace ApFrame
open AccessM Regions Tlv Security Ieee80211 Mem
set_option autoImplicit false

/-! ## The elements of the network -/

section
variable {a : ApConf} {fixed hdr : List UInt8} {es : List Tlv} {w : Tlv} {len : ℕ} {s t : Regions Area} {m : Mem}

theorem gives_extendWps (h : Network a fixed es w len s) (hhdr : hdr.length = Wifi.WLAN_HDR_A3_LEN) {pre post : List Tlv} {e : Tlv}
    (hes : es = pre ++ e :: post) (ht : Builds s m hdr t) :
    Gives Stays (extendWps a len ⟨((12 + (encodeAll pre).length : ℕ) : ℤ), e.size, []⟩ (atEnd hdr)) t fun c u =>
      c = atEnd (hdr ++ fixed ++ extendedBytes a pre e post) ∧ Builds s m (hdr ++ fixed ++ extendedBytes a pre e post) u := by
  have htwelve : fixed.length = 12 := h.twelve
  have hlen := h.length_split hes
  have hsmall := h.small
  have hname := a.nameShort
  have hattrs := wpsAttrs_length a.deviceName
  have hsize : e.size = e.body.length + 2 := rfl
  have hmax : WPS_MAX_DEVICE_NAME_LEN = 32 ∧ MAX_IE_SZ = 768 ∧ MAX_XMIT_EXTBUF_SZ = 1536 ∧ TXDESC_OFFSET = 40 ∧
      Wifi.WLAN_HDR_A3_LEN = 24 := ⟨rfl, rfl, rfl, rfl, rfl⟩
  obtain ⟨hmaxName, hmaxIe, hmaxBuf, hdesc, hwlan⟩ := hmax
  have hoffset : uint ((12 + (encodeAll pre).length : ℕ) : ℤ) = 12 + (encodeAll pre).length := uint_ofNat rfl (by omega)
  have hremainder : uint ((len : ℤ) - (12 + (encodeAll pre).length : ℕ) - e.size) = (encodeAll post).length :=
    uint_ofNat (by omega) (by omega)
  have hfirst : bytesAt (s .ies) 0 (12 + (encodeAll pre).length + e.size) = fixed ++ encodeAll (pre ++ [e]) := by
    have hparts : es = (pre ++ [e]) ++ post := by
      rw [hes, List.append_assoc]
      rfl
    have htake := h.take hparts
    rw [encodeAll_append, encodeAll_cons, encodeAll_nil, List.append_nil, List.length_append, encode_length, ← add_assoc] at htake
    rw [encodeAll_append, encodeAll_cons, encodeAll_nil, List.append_nil]
    exact htake
  have hlast := h.behind hes
  unfold extendWps
  dsimp only
  rw [hoffset, hremainder]
  refine (ht.copy (.inl rfl) 0 (12 + (encodeAll pre).length + e.size) (by omega)).bind fun c u hu => ?_
  obtain ⟨rfl, hu⟩ := hu
  rw [hfirst] at hu ⊢
  have hfront : (hdr ++ (fixed ++ encodeAll (pre ++ [e]))).length = 36 + (encodeAll pre).length + e.size := by
    simp only [List.length_append, encodeAll_append, encodeAll_cons, encodeAll_nil, List.append_nil, encode_length]
    omega
  refine (hu.put (wpsAttrs a.deviceName) (by rw [hfront]; omega)).bind fun c u hu => ?_
  obtain ⟨rfl, hu⟩ := hu
  have hlist : hdr ++ (fixed ++ encodeAll (pre ++ [e])) ++ wpsAttrs a.deviceName =
      hdr ++ fixed ++ encodeAll pre ++ [e.id] ++ [UInt8.ofNat e.body.length] ++ (e.body ++ wpsAttrs a.deviceName) := by
    simp [encode]
  have hplace : (hdr ++ fixed ++ encodeAll pre ++ [e.id]).length = 37 + (encodeAll pre).length := by
    simp only [List.length_append, List.length_singleton]
    omega
  have hsame : atEnd (hdr ++ (fixed ++ encodeAll (pre ++ [e])) ++ wpsAttrs a.deviceName) =
      atEnd (hdr ++ fixed ++ encodeAll pre ++ [e.id] ++
        [UInt8.ofNat (e.size - 2 + (wpsAttrs a.deviceName).length)] ++ (e.body ++ wpsAttrs a.deviceName)) :=
    atEnd_congr (by rw [hlist]; simp)
  rw [hlist] at hu
  refine (hu.splice (v := [UInt8.ofNat (e.size - 2 + (wpsAttrs a.deviceName).length)]) rfl ?_ ?_).bind fun _ u hu => ?_
  · rw [hplace, List.length_singleton]
    omega
  · rw [hplace]
    show ((TXDESC_OFFSET : ℕ) : ℤ) + hdr.length + (12 + (encodeAll pre).length : ℕ) + 1 = _
    omega
  rw [hsame]
  refine (hu.copy (.inl rfl) _ (encodeAll post).length ?_).mono fun c u hu => ?_
  · simp only [List.length_append, List.length_singleton]
    omega
  obtain ⟨rfl, hu⟩ := hu
  have hall : hdr ++ fixed ++ encodeAll pre ++ [e.id] ++ [UInt8.ofNat (e.size - 2 + (wpsAttrs a.deviceName).length)] ++
      (e.body ++ wpsAttrs a.deviceName) ++ encodeAll post = hdr ++ fixed ++ extendedBytes a pre e post := by
    have hbody : e.size - 2 = e.body.length := rfl
    rw [hbody]
    simp [extendedBytes]
  rw [hlast, hall] at hu ⊢
  exact ⟨rfl, hu⟩

theorem hidden_eq {mode : ℕ} {e : Tlv} (hbody : (hidden mode e).body = e.body) : hidden mode e = e := by
  obtain ⟨id, body, short⟩ := e
  simp only [hidden] at hbody ⊢
  congr 1

theorem hidden_empty (mode : ℕ) {e : Tlv} (he : e.body = []) : hidden mode e = e := by
  refine hidden_eq ?_
  simp only [hidden]
  rw [he, List.length_nil, List.replicate_zero]
  simp only [ite_self]

theorem hidden_one {e : Tlv} (hid : e.id = _SSID_IE_) : (hidden 1 e).body = [] := by simp [hidden, hid]

theorem hidden_two {e : Tlv} (hid : e.id = _SSID_IE_) : (hidden 2 e).body = List.replicate e.body.length 0 := by
  simp [hidden, hid]

theorem hidden_none {mode : ℕ} {e : Tlv} (hone : mode ≠ 1) (htwo : mode ≠ 2) : hidden mode e = e := by
  refine hidden_eq ?_
  simp only [hidden]
  rw [if_neg hone, if_neg htwo, ite_self]

/-- The bytes of the network behind those of a beacon that hides its SSID. -/
def leftOver (hdr fixed : List UInt8) (es : List Tlv) (out : List UInt8) : List UInt8 :=
  (hdr ++ fixed ++ encodeAll es).drop (hdr ++ fixed ++ out).length

theorem map_hidden_split (mode : ℕ) {pre post : List Tlv} {e : Tlv} (hothers : ∀ x ∈ pre ++ post, x.id ≠ _SSID_IE_) :
    (pre ++ e :: post).map (hidden mode) = pre ++ hidden mode e :: post := by
  rw [List.map_append, List.map_cons, map_hidden_other mode fun x hx => hothers x (List.mem_append_left _ hx),
    map_hidden_other mode fun x hx => hothers x (List.mem_append_right _ hx)]

theorem leftOver_nil {out : List UInt8} (h : (encodeAll es).length ≤ out.length) : leftOver hdr fixed es out = [] := by
  refine List.drop_eq_nil_of_le ?_
  simp only [List.length_append]
  omega

theorem leftOver_empty {pre post : List Tlv} {e e' : Tlv} (hempty : e'.body = []) :
    leftOver hdr fixed (pre ++ e :: post) (encodeAll (pre ++ e' :: post)) =
      (e.body ++ encodeAll post).drop (encodeAll post).length := by
  have hsplit : hdr ++ fixed ++ encodeAll (pre ++ e :: post) =
      (hdr ++ fixed ++ encodeAll pre ++ [e.id, UInt8.ofNat e.body.length]) ++ (e.body ++ encodeAll post) := by
    simp [encode]
  have hlen : (hdr ++ fixed ++ encodeAll (pre ++ e' :: post)).length =
      (hdr ++ fixed ++ encodeAll pre ++ [e.id, UInt8.ofNat e.body.length]).length + (encodeAll post).length := by
    simp [hempty, size]
    omega
  rw [leftOver, hsplit, hlen, List.drop_append, List.drop_eq_nil_of_le (Nat.le_add_right _ _), List.nil_append,
    Nat.add_sub_cancel_left]

theorem gives_moveDown {l moved rest : List UInt8} (ht : Builds s m (l ++ rest ++ moved) t)
    (hfit : TXDESC_OFFSET + (l ++ rest ++ moved).length ≤ MAX_XMIT_EXTBUF_SZ) {x y : ℤ} (hx : x = TXDESC_OFFSET + l.length)
    (hy : y = TXDESC_OFFSET + (l ++ rest).length) :
    Gives Stays (memcpy .frame x .frame y moved.length) t fun _ u =>
      Builds s m (l ++ moved ++ (rest ++ moved).drop moved.length) u := by
  subst hy
  have hlen : (l ++ rest ++ moved).length = (l ++ rest).length + moved.length := List.length_append
  have hread := @Builds.bytes s t m (l ++ rest) moved [] (by rwa [List.append_nil])
  have hload : Gives Stays (load .frame (TXDESC_OFFSET + (l ++ rest).length) moved.length) t fun b u => b = moved ∧ u = t :=
    ⟨inside_loadFrame (Int.add_nonneg txdesc_nonneg (Int.natCast_nonneg _)) (by omega), hread, rfl⟩
  refine hload.bind fun b u hu => ?_
  obtain ⟨rfl, rfl⟩ := hu
  have hsplit : l ++ rest ++ b = l ++ (rest ++ b).take b.length ++ (rest ++ b).drop b.length := by
    rw [List.append_assoc, List.append_assoc, List.take_append_drop]
  rw [hsplit] at ht
  have htake : ((rest ++ b).take b.length).length = b.length := by
    rw [List.length_take, List.length_append]
    omega
  refine ht.splice htake.symm ?_ hx
  rw [htake]
  simp only [List.length_append] at hfit
  omega

/-- `update_hidden_ssid` on the elements behind the fixed bytes. -/
theorem gives_updateHiddenSsid {pre post : List Tlv} {e : Tlv} (mode : ℕ) (hid : e.id = _SSID_IE_)
    (hothers : ∀ x ∈ pre ++ post, x.id ≠ _SSID_IE_) (ht : Builds s m (hdr ++ fixed ++ encodeAll (pre ++ e :: post)) t)
    (hfit : TXDESC_OFFSET + (hdr ++ fixed ++ encodeAll (pre ++ e :: post)).length ≤ MAX_XMIT_EXTBUF_SZ) :
    Gives Stays (updateHiddenSsid (TXDESC_OFFSET + (hdr ++ fixed).length) (encodeAll (pre ++ e :: post)).length mode) t fun d u =>
      d = (encodeAll (pre ++ hidden mode e :: post)).length - (encodeAll (pre ++ e :: post)).length ∧
        Builds s m (hdr ++ fixed ++ encodeAll (pre ++ hidden mode e :: post) ++
          leftOver hdr fixed (pre ++ e :: post) (encodeAll (pre ++ hidden mode e :: post))) u := by
  have hmaxBuf : MAX_XMIT_EXTBUF_SZ = 1536 := rfl
  have hsearch := ht.getSsid hfit fun hall => hid ▸ rtwGetIe_found hall rfl fun x hx => hid ▸ hothers x (List.mem_append_left _ hx)
  -- the SSID is as it was
  have hsame : hidden mode e = e → Builds s m (hdr ++ fixed ++ encodeAll (pre ++ hidden mode e :: post) ++
      leftOver hdr fixed (pre ++ e :: post) (encodeAll (pre ++ hidden mode e :: post))) t := by
    intro heq
    rw [heq, leftOver_nil le_rfl, List.append_nil]
    exact ht
  have hheader : hdr ++ fixed ++ encodeAll (pre ++ e :: post) =
      hdr ++ fixed ++ encodeAll pre ++ [e.id] ++ [UInt8.ofNat e.body.length] ++ (e.body ++ encodeAll post) := by
    simp [encode]
  have hlength : (hdr ++ fixed ++ encodeAll pre ++ [e.id]).length = (hdr ++ fixed).length + (encodeAll pre).length + 1 := by
    simp only [List.length_append, List.length_singleton]
  have htotal : ∀ x : Tlv, (encodeAll (pre ++ x :: post)).length =
      (encodeAll pre).length + 2 + x.body.length + (encodeAll post).length := by
    intro x
    simp only [List.length_append, encodeAll_append, encodeAll_cons, encode_length, size]
    omega
  have hfit' : TXDESC_OFFSET + (hdr ++ fixed).length + (encodeAll (pre ++ e :: post)).length ≤ MAX_XMIT_EXTBUF_SZ := by
    rw [List.length_append, ← add_assoc] at hfit
    exact hfit
  rw [htotal] at hfit'
  rw [updateHiddenSsid]
  refine hsearch.bind fun v u hv => ?_
  obtain ⟨rfl, rfl⟩ := hv
  dsimp only
  refine .ite (fun hempty => .pure ?_) fun hsome => .ite (fun hmode => ?_) fun hnot => .ite (fun hmode => ?_) fun hmode => .pure ?_
  · have heq := hidden_empty mode (List.length_eq_zero_iff.mp hempty)
    exact ⟨by rw [heq, sub_self], hsame heq⟩
  · subst hmode
    have hbody := hidden_one hid
    have hremain : uint (((encodeAll (pre ++ e :: post)).length : ℤ) - (TXDESC_OFFSET + (hdr ++ fixed).length +
        (encodeAll pre).length + 2 + e.body.length - (TXDESC_OFFSET + (hdr ++ fixed).length))) = (encodeAll post).length := by
      rw [htotal]
      exact uint_ofNat (by push_cast; ring) (by omega)
    have hempty : encodeAll (pre ++ hidden 1 e :: post) = encodeAll pre ++ [e.id] ++ [0] ++ encodeAll post := by
      have hencode : (hidden 1 e).encode = [e.id, 0] := by
        rw [encode, hbody]
        rfl
      rw [encodeAll_append, encodeAll_cons, hencode]
      simp
    rw [hremain]
    rw [hheader] at ht
    refine (ht.splice (v := [0]) rfl (by rw [hlength, List.length_singleton]; omega) (by rw [hlength]; push_cast; ring)).bind
      fun _ u hu => ?_
    rw [← List.append_assoc] at hu
    have hnext : (hdr ++ fixed ++ encodeAll pre ++ [e.id] ++ [0]).length = (hdr ++ fixed).length + (encodeAll pre).length + 2 := by
      rw [List.length_append, hlength, List.length_singleton]
    refine (gives_moveDown hu ?_ ?_ ?_).bind fun _ v hv => .pure ⟨?_, ?_⟩
    · rw [List.length_append, List.length_append, hnext]
      omega
    · rw [hnext]
      push_cast
      ring
    · rw [@List.length_append _ _ e.body, hnext]
      push_cast
      ring
    · rw [htotal, htotal, hbody, List.length_nil]
      push_cast
      ring
    · rw [leftOver_empty hbody, hempty]
      simpa only [List.append_assoc] using hv
  · subst hmode
    have hbody := hidden_two hid
    have hzeros : hdr ++ fixed ++ encodeAll (pre ++ hidden 2 e :: post) = hdr ++ fixed ++ encodeAll pre ++ [e.id] ++
        [UInt8.ofNat e.body.length] ++ List.replicate e.body.length 0 ++ encodeAll post := by
      have hencode : (hidden 2 e).encode = e.id :: UInt8.ofNat e.body.length :: List.replicate e.body.length 0 := by
        rw [encode, hbody, List.length_replicate]
        rfl
      rw [encodeAll_append, encodeAll_cons, hencode]
      simp
    have hsize : (encodeAll (pre ++ hidden 2 e :: post)).length = (encodeAll (pre ++ e :: post)).length := by
      rw [htotal, htotal, hbody, List.length_replicate]
    have hnext : (hdr ++ fixed ++ encodeAll pre ++ [e.id] ++ [UInt8.ofNat e.body.length]).length =
        (hdr ++ fixed).length + (encodeAll pre).length + 2 := by
      rw [List.length_append, hlength, List.length_singleton]
    rw [hheader, ← List.append_assoc] at ht
    refine (ht.splice List.length_replicate ?_ ?_).bind fun _ u hu => .pure ⟨?_, ?_⟩
    · rw [hnext]
      omega
    · rw [hnext]
      push_cast
      ring
    · rw [hsize, sub_self]
    · rw [leftOver_nil hsize.ge, List.append_nil, hzeros]
      exact hu
  · have heq := @hidden_none mode e hnot hmode
    exact ⟨by rw [heq, sub_self], hsame heq⟩

theorem gives_hideRecord (h : Network a fixed es w len s) (hhdr : hdr.length = Wifi.WLAN_HDR_A3_LEN) (ht : Builds s m hdr t) :
    Gives Stays (hideRecord a len (atEnd hdr)) t fun c u =>
      c = atEnd (hdr ++ fixed ++ encodeAll (es.map (hidden a.hiddenSsidMode))) ∧
        Builds s m (hdr ++ fixed ++ encodeAll (es.map (hidden a.hiddenSsidMode)) ++
          leftOver hdr fixed es (encodeAll (es.map (hidden a.hiddenSsidMode)))) u := by
  have htwelve : fixed.length = 12 := h.twelve
  have hlen := h.length
  have hsmall := h.small
  have hmax : MAX_IE_SZ = 768 ∧ MAX_XMIT_EXTBUF_SZ = 1536 ∧ TXDESC_OFFSET = 40 ∧ Wifi.WLAN_HDR_A3_LEN = 24 ∧
      _FIXED_IE_LENGTH_ = 12 := ⟨rfl, rfl, rfl, rfl, rfl⟩
  obtain ⟨hmaxIe, hmaxBuf, hdesc, hwlan, hfixed⟩ := hmax
  obtain ⟨pre, e, post, hes, hid, hshort, hothers⟩ := h.ssid
  have hmap : es.map (hidden a.hiddenSsidMode) = pre ++ hidden a.hiddenSsidMode e :: post := by
    rw [hes, map_hidden_split _ hothers]
  have huint : uint ((len : ℤ) - _FIXED_IE_LENGTH_) = (encodeAll es).length := uint_ofNat (by omega) (by omega)
  have hplace : (atEnd hdr).pframe + (_FIXED_IE_LENGTH_ : ℕ) = TXDESC_OFFSET + (hdr ++ fixed).length := by
    rw [List.length_append]
    show ((TXDESC_OFFSET : ℕ) : ℤ) + hdr.length + (_FIXED_IE_LENGTH_ : ℕ) = _
    omega
  rw [hmap, hideRecord, huint, hplace]
  refine (ht.memcpy (.inl rfl) 0 len (by omega)).bind fun _ u hu => ?_
  rw [h.bytes, ← List.append_assoc, hes] at hu
  have hupdate := gives_updateHiddenSsid a.hiddenSsidMode hid hothers hu (by
    rw [← hes]
    simp only [List.length_append]
    omega)
  rw [← hes] at hupdate
  refine hupdate.bind fun d v hd => .pure ⟨?_, hd.2⟩
  refine atEnd_of_length ?_
  rw [hd.1]
  simp only [List.length_append]
  omega

end

/-! ## The search for the selected registrar -/

theorem rtwGetWpsIe_place {start : ℤ} {n : ℕ} {m : Mem} {t : Target} (h : ((rtwGetWpsIe start n false).run m).val = some t) :
    start ≤ t.ptr ∧ t.ptr < start + n ∧ t.size ≤ 257 := by
  rcases Nat.eq_zero_or_pos n with rfl | hpos
  · cases h
  have hiff := @Search.search_val_iff m start n false (lookIe start _VENDOR_SPECIFIC_IE_ (some wpsOui))
    (answerIe m start _VENDOR_SPECIFIC_IE_ (some wpsOui)) (fun _ => lookIe_val) (fun _ => lookIe_st) n 0 hpos (by omega)
    t.ptr t.size
  obtain ⟨j, hvisits, -, hptr, hsize⟩ := hiff.mp ⟨t.copy, h⟩
  have hlt := hvisits.lt n hpos fun i k hk => (Search.nextAt_lt hk).2
  have hbyte := (m (start + j + 1)).toNat_lt
  rw [Search.sizeAt] at hsize
  omega

theorem rtwGetWpsAttr_place {m : Mem} {ie : ℤ} {ielen target fuel : ℕ} {attr : Target}
    (h : rtwGetWpsAttr m ie ielen target false fuel = some (some attr)) :
    ie ≤ attr.ptr ∧ attr.ptr < ie + ielen ∧ attr.size < 2 ^ 16 := by
  rw [rtwGetWpsAttr, AttrKind.getAttr] at h
  split at h
  · obtain ⟨k, -, hpass⟩ := WhileLoop.passes_eq_some_iff.mp ⟨fuel, h⟩
    rw [AttrKind.pass] at hpass
    split at hpass
    · cases hpass
    next hin =>
      split at hpass
      · obtain rfl := Option.some.inj (Sum.inl.inj hpass)
        dsimp only
        exact ⟨by omega, by omega, Nat.mod_lt _ (by decide)⟩
      · cases hpass
  · cases h

/-- The search for the selected registrar in a frame with `n` bytes of elements comes to an end, and finds no attribute that
does not fit in one byte. -/
def RegistrarFits (m : Mem) (n fuel : ℕ) : Prop :=
  ∀ t, ((rtwGetWpsIe (TXDESC_OFFSET + Wifi.WLAN_HDR_A3_LEN + _FIXED_IE_LENGTH_) n false).run m).val = some t →
    ∃ r, rtwGetWpsAttr m t.ptr t.size WPS_ATTR_SELECTED_REGISTRAR false fuel = some r ∧
      ∀ attr ∈ r, attr.size = 0 ∨ attr.size = 4 ∨ attr.size = 5

section
variable {t : Regions Area} {n : ℕ} {c : Cursor}

theorem inside_copyContent {ptr : ℤ} {size : ℕ} (hsize : size ≠ 0) (hshort : size < 2 ^ 16) (hptr : 0 ≤ ptr) (hend : ptr + 5 ≤ MAX_XMIT_EXTBUF_SZ) :
    Inside Stays (memcpy .sr 0 .frame (ptr + 4) (uint ((size : ℤ) - 4))) t ↔ size = 4 ∨ size = 5 := by
  have hlen : ∀ k : ℕ, ((load .frame (ptr + 4) k).run t).val.length = k := fun k => by
    rw [load_val, List.length_map, List.length_range]
  rw [memcpy, inside_bind, load_st, inside_store_iff, hlen]
  constructor
  · rintro ⟨-, hstore⟩
    by_contra hnot
    have htwo : 2 ≤ uint ((size : ℤ) - 4) := by
      rw [uint]
      omega
    have hone : (0 : ℤ) + (1 : ℕ) = 0 := hstore 1 (by omega)
    omega
  · rintro (rfl | rfl)
    · have hzero : uint (((4 : ℕ) : ℤ) - 4) = 0 := rfl
      rw [hzero]
      exact ⟨inside_loadFrame (by omega) (by omega), fun k hk => absurd hk (Nat.not_lt_zero k)⟩
    · have hone : uint (((5 : ℕ) : ℤ) - 4) = 1 := rfl
      rw [hone]
      refine ⟨inside_loadFrame (by omega) (by omega), fun k hk => ?_⟩
      obtain rfl : k = 0 := by omega
      rfl

theorem readRegistrar_iff (fuel : ℕ) {wpsIe : Target} (hptr : 0 ≤ wpsIe.ptr) (hend : wpsIe.ptr + wpsIe.size + 5 ≤ MAX_XMIT_EXTBUF_SZ) :
    Inside Stays (readRegistrar fuel wpsIe) t ∧ ((readRegistrar fuel wpsIe).run t).val = true ↔
      ∃ r, rtwGetWpsAttr (t .frame) wpsIe.ptr wpsIe.size WPS_ATTR_SELECTED_REGISTRAR false fuel = some r ∧
        ∀ attr ∈ r, attr.size = 0 ∨ attr.size = 4 ∨ attr.size = 5 := by
  rw [readRegistrar, inside_bind, bind_val, get_val, get_st]
  rw [and_iff_right (inside_get _ _)]
  cases hfound : rtwGetWpsAttr (t .frame) wpsIe.ptr wpsIe.size WPS_ATTR_SELECTED_REGISTRAR false fuel with
  | none => exact iff_of_false (fun h => Bool.false_ne_true h.2) fun ⟨r, hr, _⟩ => Option.some_ne_none r hr.symm
  | some r =>
    cases r with
    | none => exact iff_of_true ⟨inside_pure _ _ _, rfl⟩ ⟨none, rfl, fun attr hattr => absurd hattr (Option.not_mem_none attr)⟩
    | some attr =>
      obtain ⟨hlo, hhi, hshort⟩ := rtwGetWpsAttr_place hfound
      have hmem : (∃ r, some (some attr) = some r ∧ ∀ attr ∈ r, attr.size = 0 ∨ attr.size = 4 ∨ attr.size = 5) ↔
          attr.size = 0 ∨ attr.size = 4 ∨ attr.size = 5 := by
        constructor
        · rintro ⟨r, hr, hall⟩
          exact hall attr (Option.some.inj hr).symm
        · exact fun h => ⟨some attr, rfl, fun x hx => Option.some.inj hx ▸ h⟩
      rw [hmem]
      dsimp only
      by_cases hzero : attr.size = 0
      · rw [if_pos hzero]
        exact iff_of_true ⟨inside_pure _ _ _, rfl⟩ (.inl hzero)
      · rw [if_neg hzero, inside_bind, inside_copyContent hzero hshort (by omega) (by omega), or_iff_right hzero]
        exact ⟨fun h => h.1.1, fun h => ⟨⟨h, inside_pure _ _ _⟩, rfl⟩⟩

/-- Only `sr` is written. -/
theorem readRegistrar_st (fuel : ℕ) (wpsIe : Target) {r : Area} (hr : r ≠ .sr) : ((readRegistrar fuel wpsIe).run t).st r = t r := by
  rw [readRegistrar, bind_st, get_val, get_st]
  split
  · rfl
  · rfl
  · rw [ite_run]
    split
    · rfl
    · rw [bind_st, pure_st, memcpy_st, Function.update_of_ne hr]

theorem gives_findWps (hn : n ≤ 1000) : Gives Stays (zoom (region .frame) (rtwGetWpsIe 76 n false)) t fun v u =>
    v = ((rtwGetWpsIe 76 n false).run (t .frame)).val ∧ u = t := by
  have hst : ((rtwGetWpsIe 76 n false).run (t .frame)).st = t .frame := rtwGetIeEx_st _ _
  refine ⟨?_, rfl, ?_⟩
  · rw [inside_zoom]
    intro x hx
    have hin := inside_rtwGetWpsIe 76 n (t .frame) x hx
    show 0 ≤ x ∧ x < (MAX_XMIT_EXTBUF_SZ : ℕ)
    have hmax : MAX_XMIT_EXTBUF_SZ = 1536 := rfl
    omega
  · rw [zoom_st]
    show Function.update t .frame ((rtwGetWpsIe 76 n false).run (t .frame)).st = t
    rw [hst, Function.update_eq_self]

theorem selectedRegistrar_iff (fuel : ℕ) (hc : c.pktlen = (36 + n : ℕ)) (hn : n ≤ 1000) :
    (Inside Stays (selectedRegistrar fuel c) t ∧ ((selectedRegistrar fuel c).run t).val = true ↔ RegistrarFits (t .frame) n fuel) ∧
      ∀ r, r ≠ .sr → ((selectedRegistrar fuel c).run t).st r = t r := by
  have huint : uint (c.pktlen - Wifi.WLAN_HDR_A3_LEN - _FIXED_IE_LENGTH_) = n := by
    have hwlan : Wifi.WLAN_HDR_A3_LEN = 24 := rfl
    have htwelve : _FIXED_IE_LENGTH_ = 12 := rfl
    exact uint_ofNat (by omega) (by omega)
  have hstart : (TXDESC_OFFSET : ℤ) + Wifi.WLAN_HDR_A3_LEN + _FIXED_IE_LENGTH_ = 76 := rfl
  have hread := @gives_findWps t n hn
  unfold selectedRegistrar
  dsimp only
  rw [huint, hstart, RegistrarFits, hstart, inside_bind, and_iff_right hread.inside, bind_val, bind_st, hread.post.1, hread.post.2]
  cases hfound : ((rtwGetWpsIe 76 n false).run (t .frame)).val with
  | none =>
    exact ⟨iff_of_true ⟨inside_pure _ _ _, rfl⟩ fun x hx => absurd hx.symm (Option.some_ne_none x), fun _ _ => rfl⟩
  | some wpsIe =>
    obtain ⟨hlo, hhi, hsize⟩ := rtwGetWpsIe_place hfound
    have hmax : MAX_XMIT_EXTBUF_SZ = 1536 := rfl
    refine ⟨(readRegistrar_iff fuel (by omega) (by omega)).trans ⟨fun h x hx => ?_, fun h => h wpsIe rfl⟩, fun r hr =>
      readRegistrar_st fuel wpsIe hr⟩
    rw [← Option.some.inj hx]
    exact h

end

/-! ## The beacon -/

def beaconHdr (a : ApConf) : List UInt8 := wlanhdr (Vector.replicate 6 0xff) a.myid a.macAddress 0 WIFI_BEACON

/-- The element that a group owner takes for WPS, and those around it. -/
def takenWps (a : ApConf) (behind : List UInt8) (es : List Tlv) : Option (List Tlv × Tlv × List Tlv) :=
  if a.go then splitWps behind es else none

def beaconBytes (a : ApConf) (behind : List UInt8) (es : List Tlv) : List UInt8 :=
  (takenWps a behind es).elim (encodeAll (es.map (hidden a.hiddenSsidMode))) fun t => extendedBytes a t.1 t.2.1 t.2.2

/-- The buffer once these elements are in the beacon. -/
def beaconBuffer (a : ApConf) (fixed : List UInt8) (es : List Tlv) (out : List UInt8) (s : Regions Area) : Mem :=
  putBytes (cleared s) TXDESC_OFFSET (beaconHdr a ++ fixed ++ out ++ leftOver (beaconHdr a) fixed es out)

/-- No memory for the frame; or the driver runs, the element for WPS is taken for what it is and has room for the attributes, no
SSID is to be hidden then, the beacon is not too large, and the search for the selected registrar comes to an end with at most
one byte. -/
def BeaconMeets (a : ApConf) (fixed : List UInt8) (es : List Tlv) (len : ℕ) (s : Regions Area) : Prop :=
  a.alloc = false ∨ a.stopped = false ∧
    (∀ pre e post, takenWps a (bytesAt (s .ies) len 4) es = some (pre, e, post) → IsWps e ∧
      (e.body ++ wpsAttrs a.deviceName).length < 256 ∧ es.map (hidden a.hiddenSsidMode) = es) ∧
    ∀ out, beaconElements a es = some out →
      Wifi.WLAN_HDR_A3_LEN + (fixed ++ encodeAll (out ++ built a.go a)).length + TXDESC_SIZE ≤ 512 ∧
        ∃ fuel, RegistrarFits (beaconBuffer a fixed es (encodeAll out) s) (encodeAll out).length fuel

theorem carries_iff {fixed hdr l : List UInt8} {out : List Tlv} {s u : Regions Area} {m : Mem}
    (hhdr : hdr.length = Wifi.WLAN_HDR_A3_LEN) (hu : Builds s m (hdr ++ fixed ++ l) u)
    (hfit : TXDESC_OFFSET + (hdr ++ fixed ++ l).length ≤ MAX_XMIT_EXTBUF_SZ) :
    Carries fixed out (atEnd (hdr ++ fixed ++ l)) u ↔ encodeAll out = l := by
  have hlen : Wifi.WLAN_HDR_A3_LEN ≤ (hdr ++ fixed ++ l).length := by
    rw [List.length_append, List.length_append, hhdr]
    omega
  rw [carries_drop_iff hlen hu hfit, List.append_assoc, List.drop_left' hhdr, List.append_cancel_left_eq, eq_comm]

section
variable {a : ApConf} {fixed : List UInt8} {es : List Tlv} {w : Tlv} {len : ℕ} {s t : Regions Area}

/-- What is made of the elements is what should be, for some elements, just when none of the slips shows. -/
theorem beaconBytes_iff (behind : List UInt8) :
    (∃ l, beaconElements a es = some l ∧ encodeAll l = beaconBytes a behind es) ↔
      ∀ pre e post, takenWps a behind es = some (pre, e, post) → IsWps e ∧ (e.body ++ wpsAttrs a.deviceName).length < 256 ∧
        es.map (hidden a.hiddenSsidMode) = es := by
  rw [beaconBytes]
  cases htaken : takenWps a behind es with
  | none =>
    refine iff_of_true ⟨es.map (hidden a.hiddenSsidMode), ?_, rfl⟩ fun pre e post h => absurd h.symm (Option.some_ne_none _)
    rw [beaconElements]
    rw [takenWps] at htaken
    split
    next hgo =>
      rw [if_pos hgo] at htaken
      rw [updateWps_none (splitWps_none htaken)]
      rfl
    · rfl
  | some found =>
    obtain ⟨pre, e, post⟩ := found
    have hgo : a.go = true := by
      by_contra hnot
      rw [takenWps, if_neg hnot] at htaken
      cases htaken
    rw [takenWps, if_pos hgo] at htaken
    obtain ⟨hes, hlooks, hpre⟩ := splitWps_some htaken
    have hiff := @extendedBytes_iff a e pre post _ hgo hpre hlooks
    rw [← hes] at hiff
    refine hiff.trans ⟨fun h pre' e' post' heq => ?_, fun h => h pre e post rfl⟩
    obtain ⟨-, rfl, -⟩ : pre = pre' ∧ e = e' ∧ post = post' := by simpa using heq
    exact h

theorem extendedBytes_length (a : ApConf) (pre : List Tlv) (e : Tlv) (post : List Tlv) : (extendedBytes a pre e post).length =
    (encodeAll (pre ++ e :: post)).length + (wpsAttrs a.deviceName).length := by
  simp only [extendedBytes, List.length_append, List.length_cons, encodeAll_append, encodeAll_cons, encode_length, size]
  omega

theorem hidden_shorter (mode : ℕ) (es : List Tlv) : (encodeAll (es.map (hidden mode))).length ≤ (encodeAll es).length := by
  induction es with
  | nil => exact le_rfl
  | cons e es ih =>
    have hbody := hidden_length_le mode e
    rw [List.map_cons, encodeAll_cons, encodeAll_cons, List.length_append, List.length_append, encode_length, encode_length, size, size]
    omega

theorem beaconBytes_length (behind : List UInt8) : (beaconBytes a behind es).length ≤ (encodeAll es).length + 48 := by
  have hname := a.nameShort
  have hmax : WPS_MAX_DEVICE_NAME_LEN = 32 := rfl
  have hattrs := wpsAttrs_length a.deviceName
  rw [beaconBytes]
  cases htaken : takenWps a behind es with
  | none =>
    have hle := hidden_shorter a.hiddenSsidMode es
    dsimp only [Option.elim_none]
    omega
  | some found =>
    obtain ⟨pre, e, post⟩ := found
    rw [takenWps] at htaken
    split at htaken
    · obtain ⟨rfl, -, -⟩ := splitWps_some htaken
      dsimp only [Option.elim_some]
      rw [extendedBytes_length]
      omega
    · cases htaken

theorem gives_beaconBody (h : Network a fixed es w len s) {hdr : List UInt8} {m : Mem} (hhdr : hdr.length = Wifi.WLAN_HDR_A3_LEN)
    (ht : Builds s m hdr t) : Gives Stays (beaconBody a len (atEnd hdr)) t fun c u =>
      c = atEnd (hdr ++ fixed ++ beaconBytes a (bytesAt (s .ies) len 4) es) ∧
        Builds s m (hdr ++ fixed ++ beaconBytes a (bytesAt (s .ies) len 4) es ++
          leftOver hdr fixed es (beaconBytes a (bytesAt (s .ies) len 4) es)) u := by
  have hhide := gives_hideRecord h hhdr ht
  refine (gives_getWpsIe h ht.ies).bind fun v u hv => ?_
  obtain ⟨rfl, rfl⟩ := hv
  rw [beaconBytes, takenWps]
  by_cases hgo : a.go = true
  · rw [if_pos hgo, if_pos hgo]
    cases hsplit : splitWps (bytesAt (s .ies) len 4) es with
    | none => exact hhide
    | some found =>
      obtain ⟨pre, e, post⟩ := found
      obtain ⟨hes, -, -⟩ := splitWps_some hsplit
      have hlonger : (encodeAll es).length ≤ (extendedBytes a pre e post).length := by
        rw [extendedBytes_length, hes]
        exact Nat.le_add_right _ _
      dsimp only [Option.elim_some]
      rw [leftOver_nil hlonger, List.append_nil]
      exact gives_extendWps h hhdr hes ht
  · rw [if_neg hgo, if_neg hgo]
    exact hhide

theorem gives_finishBeacon {l : List UInt8} {m : Mem} (ht : Builds s m l t) (hfit : TXDESC_OFFSET + l.length + 514 ≤ MAX_XMIT_EXTBUF_SZ) :
    Gives Stays (finishBeacon a (atEnd l)) t fun v u =>
      v = some (if 512 < (l ++ encodeAll (built a.go a)).length + TXDESC_SIZE then .leaked
        else dumpMgntframe a (atEnd (l ++ encodeAll (built a.go a)))) ∧ Builds s m (l ++ encodeAll (built a.go a)) u := by
  refine (ht.appendBuilt a.go a hfit).bind fun c u hu => ?_
  obtain ⟨rfl, hu⟩ := hu
  have hsize : 512 < (atEnd (l ++ encodeAll (built a.go a))).pktlen + TXDESC_SIZE ↔
      512 < (l ++ encodeAll (built a.go a)).length + TXDESC_SIZE := by
    show 512 < ((l ++ encodeAll (built a.go a)).length : ℤ) + TXDESC_SIZE ↔ _
    omega
  refine .ite (fun hlarge => .pure ⟨?_, hu⟩) fun hsmall => .pure ⟨?_, hu⟩
  · rw [if_pos (hsize.mp hlarge)]
  · rw [if_neg fun hlarge => hsmall (hsize.mpr hlarge)]

/-- A run of `issue_beacon`: it comes to an end inside its buffers when the search for the selected registrar does, and then
what it does with the frame depends on its length only. -/
theorem issueBeacon_run (h : Network a fixed es w len s) (halloc : a.alloc = true) (fuel : ℕ) {b : List UInt8}
    (hb : b = beaconBytes a (bytesAt (s .ies) len 4) es) :
    (Inside Stays (issueBeacon a fuel len) s ∧ ((issueBeacon a fuel len).run s).val.isSome = true ↔
      RegistrarFits (beaconBuffer a fixed es b s) b.length fuel) ∧
    ∀ issue, ((issueBeacon a fuel len).run s).val = some issue →
      issue = (if 512 < (beaconHdr a ++ fixed ++ (b ++ encodeAll (built a.go a))).length + TXDESC_SIZE then .leaked
        else dumpMgntframe a (atEnd (beaconHdr a ++ fixed ++ (b ++ encodeAll (built a.go a))))) ∧
      ∃ m, Builds s m (beaconHdr a ++ fixed ++ (b ++ encodeAll (built a.go a))) ((issueBeacon a fuel len).run s).st := by
  have hnot : ¬(!a.alloc) = true := by rw [halloc]; exact Bool.false_ne_true
  have hhdr : (beaconHdr a).length = Wifi.WLAN_HDR_A3_LEN := wlanhdr_length _ _ _ _ _
  have hshort := @beaconBytes_length a es (bytesAt (s .ies) len 4)
  have hlen := h.length
  have hsmall := h.small
  have htwelve : fixed.length = 12 := h.twelve
  have hmax : MAX_IE_SZ = 768 ∧ MAX_XMIT_EXTBUF_SZ = 1536 ∧ TXDESC_OFFSET = 40 ∧ Wifi.WLAN_HDR_A3_LEN = 24 :=
    ⟨rfl, rfl, rfl, rfl⟩
  obtain ⟨hmaxIe, hmaxBuf, hdesc, hwlan⟩ := hmax
  have hbegin := gives_startFrame s (beaconHdr a) hhdr
  have hbody := gives_beaconBody h hhdr hbegin.post.2
  rw [← hb] at hshort hbody
  -- the record is in the frame
  have hstart := hbegin.post.1
  have hdone := hbody.post.1
  have hbuilds := hbody.post.2
  generalize ht₁ : ((startFrame (beaconHdr a)).run s).st = t₁ at hbody hdone hbuilds
  generalize ht₂ : ((beaconBody a len (atEnd (beaconHdr a))).run t₁).st = t₂ at hbuilds
  have hpktlen : (atEnd (beaconHdr a ++ fixed ++ b)).pktlen = (36 + b.length : ℕ) := by
    show ((beaconHdr a ++ fixed ++ b).length : ℤ) = (36 + b.length : ℕ)
    rw [List.length_append, List.length_append]
    omega
  obtain ⟨hregistrar, hothers⟩ := @selectedRegistrar_iff t₂ b.length (atEnd (beaconHdr a ++ fixed ++ b)) fuel hpktlen (by omega)
  have hbuffer : t₂ .frame = beaconBuffer a fixed es b s := hbuilds.frame
  have hrebase := hbuilds.rebase
  -- behind the search
  have hfinish : ∀ t₃ : Regions Area, (∀ r, r ≠ .sr → t₃ r = t₂ r) →
      Gives Stays (finishBeacon a (atEnd (beaconHdr a ++ fixed ++ b))) t₃ fun v u =>
        v = some (if 512 < (beaconHdr a ++ fixed ++ (b ++ encodeAll (built a.go a))).length + TXDESC_SIZE then .leaked
          else dumpMgntframe a (atEnd (beaconHdr a ++ fixed ++ (b ++ encodeAll (built a.go a))))) ∧
        Builds s (t₂ .frame) (beaconHdr a ++ fixed ++ (b ++ encodeAll (built a.go a))) u := by
    intro t₃ hsame
    have hlast : Builds s (t₂ .frame) (beaconHdr a ++ fixed ++ b) t₃ :=
      ⟨(hsame .frame (by decide)).trans hrebase.frame, (hsame .ies (by decide)).trans hrebase.ies,
        (hsame .wps (by decide)).trans hrebase.wps⟩
    have hgives := gives_finishBeacon (a := a) hlast (by rw [List.length_append, List.length_append]; omega)
    rw [List.append_assoc _ b] at hgives
    exact hgives
  have hfinish := hfinish _ hothers
  generalize ht₃ : ((selectedRegistrar fuel (atEnd (beaconHdr a ++ fixed ++ b))).run t₂).st = t₃ at hfinish
  rw [issueBeacon, if_neg hnot, ← beaconHdr, inside_bind, bind_val, bind_st, and_iff_right hbegin.inside, hstart, ht₁, inside_bind,
    bind_val, bind_st, and_iff_right hbody.inside, hdone, ht₂, inside_bind, bind_val, bind_st, ht₃]
  rw [hbuffer] at hregistrar
  cases hended : ((selectedRegistrar fuel (atEnd (beaconHdr a ++ fixed ++ b))).run t₂).val with
  | false =>
    rw [hended] at hregistrar
    rw [if_neg Bool.false_ne_true]
    exact ⟨iff_of_false (fun hsome => Bool.false_ne_true hsome.2) fun hfits => Bool.false_ne_true (hregistrar.mpr hfits).2,
      fun issue hissue => absurd hissue.symm (Option.some_ne_none issue)⟩
  | true =>
    rw [hended, and_iff_left rfl] at hregistrar
    rw [if_pos rfl, and_iff_left hfinish.inside, hfinish.post.1, hregistrar]
    refine ⟨and_iff_left rfl, fun issue hissue => ⟨(Option.some.inj hissue).symm, t₂ .frame, hfinish.post.2⟩⟩

theorem beaconIssued_iff (h : Network a fixed es w len s) : BeaconIssued a fixed es len s ↔ BeaconMeets a fixed es len s := by
  rw [BeaconMeets]
  cases halloc : a.alloc with
  | false =>
    have hdo : (!a.alloc) = true := by rw [halloc]; rfl
    refine iff_of_true ⟨0, .nothing, ?_, ?_, .inl rfl⟩ (.inl rfl)
    · rw [issueBeacon, if_pos hdo]
      exact inside_pure _ _ _
    · rw [issueBeacon, if_pos hdo]
      rfl
  | true =>
    rw [or_iff_right Bool.false_ne_true.symm, ← beaconBytes_iff (bytesAt (s .ies) len 4)]
    have hhdr : (beaconHdr a).length = Wifi.WLAN_HDR_A3_LEN := wlanhdr_length _ _ _ _ _
    have hshort := @beaconBytes_length a es (bytesAt (s .ies) len 4)
    generalize hb : beaconBytes a (bytesAt (s .ies) len 4) es = b at hshort
    have hrun := fun fuel => issueBeacon_run h halloc fuel hb.symm
    -- a beacon that is not too large is inside its buffer
    have hinBuffer : ∀ n, n + TXDESC_SIZE ≤ 512 → TXDESC_OFFSET + n ≤ MAX_XMIT_EXTBUF_SZ := by
      intro n hn
      have hmax : TXDESC_SIZE = 32 ∧ TXDESC_OFFSET = 40 ∧ MAX_XMIT_EXTBUF_SZ = 1536 := ⟨rfl, rfl, rfl⟩
      omega
    have hsize : ∀ l, encodeAll l = b → (beaconHdr a ++ fixed ++ (b ++ encodeAll (built a.go a))).length =
        Wifi.WLAN_HDR_A3_LEN + (fixed ++ encodeAll (l ++ built a.go a)).length := by
      rintro l rfl
      rw [encodeAll_append, List.append_assoc, List.length_append, hhdr]
    constructor
    · rintro ⟨fuel, issue, hinside, hval, hissued⟩
      obtain ⟨hfits, hissue⟩ := hrun fuel
      have hends := hfits.mp ⟨hinside, by rw [hval]; rfl⟩
      obtain ⟨rfl, m, hbuilds⟩ := hissue issue hval
      by_cases hlarge : 512 < (beaconHdr a ++ fixed ++ (b ++ encodeAll (built a.go a))).length + TXDESC_SIZE
      · rw [if_pos hlarge] at hissued
        rcases hissued with hnothing | ⟨c, l, hsent, -⟩
        · cases hnothing
        · cases hsent
      · rw [if_neg hlarge, dumpMgntframe] at hissued
        cases hstopped : a.stopped with
        | true =>
          rw [if_pos hstopped] at hissued
          rcases hissued with hnothing | ⟨c, l, hsent, -⟩
          · cases hnothing
          · cases hsent
        | false =>
          have hnot : ¬a.stopped = true := by rw [hstopped]; exact Bool.false_ne_true
          rw [if_neg hnot] at hissued
          rcases hissued with hnothing | ⟨c, l', hsent, hl', hcarries⟩
          · cases hnothing
          · obtain rfl := Issue.sent.inj hsent
            obtain ⟨l, hl, rfl⟩ := Option.map_eq_some_iff.mp hl'
            have hbytes := (carries_iff hhdr hbuilds (hinBuffer _ (Nat.le_of_not_lt hlarge))).mp hcarries
            rw [encodeAll_append] at hbytes
            have hbytes := List.append_cancel_right hbytes
            refine ⟨rfl, ⟨l, hl, hbytes⟩, fun out hout => ?_⟩
            obtain rfl := Option.some.inj (hl.symm.trans hout)
            rw [← hsize l hbytes, hbytes]
            exact ⟨Nat.le_of_not_lt hlarge, fuel, hends⟩
    · rintro ⟨hstopped, ⟨l, hl, hbytes⟩, hfits⟩
      obtain ⟨hsmall, fuel, hends⟩ := hfits l hl
      rw [← hsize l hbytes] at hsmall
      rw [hbytes] at hends
      obtain ⟨hfits, hissue⟩ := hrun fuel
      obtain ⟨hinside, hsome⟩ := hfits.mpr hends
      obtain ⟨issue, hval⟩ := Option.isSome_iff_exists.mp hsome
      obtain ⟨rfl, m, hbuilds⟩ := hissue issue hval
      have hnot : ¬a.stopped = true := by rw [hstopped]; exact Bool.false_ne_true
      refine ⟨fuel, _, hinside, hval, .inr ⟨_, l ++ built a.go a, ?_, ?_, (carries_iff hhdr hbuilds (hinBuffer _ hsmall)).mpr ?_⟩⟩
      · rw [if_neg (Nat.not_lt.mpr hsmall), dumpMgntframe, if_neg hnot]
      · rw [hl]
        rfl
      · rw [encodeAll_append, hbytes]

end

end ApFrame

end Rtl8723au
