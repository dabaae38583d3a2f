import Rtl8723au.Ap.BeaconSteps

/-! `rtw_check_beacon_data` as a whole: when it keeps to its buffers, what it tells and changes then, and what that is for a
beacon that holds a list of elements. -/
namespace Rtl8723au
namespace BeaconData
open AccessM Regions Tlv Security Ieee80211 Mem
set_option autoImplicit false

/-! ## The whole run -/

/-- Nothing is too long, and the search loops stay before `len`. -/
structure Rooms (a : BeaconConf) (len : ℕ) (m : Mem) : Prop where
  ssid : ∀ e, notEmpty (found _SSID_IE_ len m) = some e → e.2 ≤ 32
  rates : foundLength _SUPPORTEDRATES_IE_ len m + foundLength _EXT_SUPPORTEDRATES_IE_ len m ≤ 16
  wpa : WpaRoom len m
  wmm : a.wmmEnable = true → WmmRoom len m
  htCap : ∀ e, notEmpty (found _HT_CAPABILITY_IE_ len (editBytes m (wmmFoundEdits a len m))) = some e → e.2 ≤ 26

/-- What is told of the elements `m`, in memory. -/
structure ReadOf (a : BeaconConf) (len : ℕ) (m : Mem) (r : BeaconFacts) (u : Regions Area) : Prop where
  privacy : r.privacy = (leAt m 0 2).testBit 4
  ssidLength : r.ssidLength = (notEmpty (found _SSID_IE_ len m)).elim a.ssidLength (·.2)
  ssid : ∀ e, notEmpty (found _SSID_IE_ len m) = some e → bytesAt (u .ssid) 0 e.2 = bytesAt m (e.1 + 2) e.2
  dsConfig : r.dsConfig = (notEmpty (found _DSSET_IE_ len m)).elim 0 (fun e => m (e.1 + 2))
  rsn : r.wpa2GroupCipher = groupCipher (rsnTold len m) ∧ r.wpa2PairwiseCipher = pairwiseCipher (rsnTold len m)
  wpa : r.wpaGroupCipher = groupCipher (wpaTold len m) ∧ r.wpaPairwiseCipher = pairwiseCipher (wpaTold len m)
  qos : r.qosOption = ((a.wmmEnable && (vendorFound WMM_PARA_IE len m).isSome) ||
    ((notEmpty (found _HT_CAPABILITY_IE_ len (editBytes m (wmmFoundEdits a len m)))).isSome && a.htEnable))
  ies : u .ies = editBytes m (wmmFoundEdits a len m ++ htFoundEdits a len m)

section
variable {a : BeaconConf} {len : ℕ} {t : Regions Area}

theorem gives_loadLe (x : ℤ) (n : ℕ) : Gives (Keeps len) (loadLe .ies x n) t fun v u => v = leAt (t .ies) x n ∧ u = t :=
  ⟨(inside_map _ _ _ _).mpr (inside_loadIes x n), rfl, rfl⟩

theorem gives_readBeacon (m : Mem) (hm : t .ies = m) : GivesIff (Keeps len) (readBeacon a len) t (Rooms a len m) fun r u =>
    ReadOf a len m r u := by
  have hall : GivesIff (Keeps len) (readBeacon a len) t
      ((∀ e, notEmpty (found _SSID_IE_ len m) = some e → e.2 ≤ 32) ∧
        (foundLength _SUPPORTEDRATES_IE_ len m + foundLength _EXT_SUPPORTEDRATES_IE_ len m ≤ 16) ∧
        WpaRoom len m ∧ (a.wmmEnable = true → WmmRoom len m) ∧
        (∀ e, notEmpty (found _HT_CAPABILITY_IE_ len (editBytes m (wmmFoundEdits a len m))) = some e → e.2 ≤ 26) ∧
        ∀ e, notEmpty (found _HT_CAPABILITY_IE_ len (editBytes m (wmmFoundEdits a len m))) = some e →
          a.htEnable = true → e.2 ≤ 26) fun r u => ReadOf a len m r u := by
    refine .after (gives_loadLe 8 2) fun period t₀ ht₀ => ?_
    obtain ⟨-, rfl⟩ := ht₀
    refine .after (gives_loadLe 0 2) fun cap t₁ ht₁ => ?_
    obtain ⟨hcap, rfl⟩ := ht₁
    have hssid := @gives_setSsid a len t₁
    rw [hm] at hcap hssid
    refine .bind hssid fun ssidLength t₂ ht₂ => ?_
    obtain ⟨hothers₂, hssidLength, hssid⟩ := ht₂
    have hies₂ : t₂ .ies = m := (hothers₂ .ies (by decide)).trans hm
    refine .after gives_getChannel fun dsConfig t₃ ht₃ => ?_
    obtain ⟨hds, rfl⟩ := ht₃
    have hrates := @gives_setRates len t₃
    rw [hies₂] at hds hrates
    refine .bind hrates fun _ t₄ hothers₄ => ?_
    have hies₄ : t₄ .ies = m := (hothers₄ .ies (by decide)).trans hies₂
    refine .after (gives_getIe _ERPINFO_IE_) fun erp t₅ ht₅ => ?_
    obtain ⟨-, rfl⟩ := ht₅
    refine .after (gives_copyShort (r := .erpIe) rfl (notEmpty erp)) fun _ t₆ hothers₆ => ?_
    have hies₆ : t₆ .ies = m := (hothers₆ .ies (by decide)).trans hies₄
    refine .after gives_parseRsn fun wpa2 t₇ ht₇ => ?_
    obtain ⟨hwpa2, rfl⟩ := ht₇
    rw [hies₆] at hwpa2
    have hsearch := @gives_wpa len t₇
    rw [hies₆] at hsearch
    refine .bind hsearch fun wpa t₈ ht₈ => ?_
    obtain ⟨hwpa, rfl⟩ := ht₈
    have hwmm := @gives_wmmOption a len t₈
    rw [hies₆] at hwmm
    refine .bind hwmm fun wmm t₉ ht₉ => ?_
    obtain ⟨hwmm, ht₉⟩ := ht₉
    have hies₉ : t₉ .ies = editBytes m (wmmFoundEdits a len m) := by rw [ht₉, Function.update_self]
    have hssid₉ : t₉ .ssid = t₃ .ssid := by
      rw [ht₉, Function.update_of_ne (by decide), hothers₆ .ssid (by decide), hothers₄ .ssid (by decide)]
    have hht := @gives_setHtCap a len t₉ (isCcmp wpa wpa2)
    rw [hies₉] at hht
    refine .bind hht fun htCap t₁₀ ht₁₀ => ?_
    obtain ⟨hhtCap, hssid₁₀, hies₁₀⟩ := ht₁₀
    refine .after (gives_getIe _HT_ADD_INFO_IE_) fun htInfo t₁₁ ht₁₁ => ?_
    obtain ⟨-, rfl⟩ := ht₁₁
    have huse := @gives_useHt a len t₁₁ htCap (notEmpty htInfo)
    rw [hhtCap] at huse ⊢
    refine .before huse fun htOption t₁₂ ht₁₂ => .pure ?_
    obtain ⟨huse, hssid₁₂, hies₁₂⟩ := ht₁₂
    refine ⟨hcap ▸ rfl, hssidLength, fun e he => ?_, hds, hwpa2 ▸ ⟨rfl, rfl⟩, hwpa ▸ ⟨rfl, rfl⟩, hwmm ▸ huse ▸ rfl, ?_⟩
    · rw [hssid₁₂, hssid₁₀, hssid₉]
      exact hssid e he
    · rw [hies₁₂, hies₁₀, hwpa, hwpa2, editBytes_append]
      rfl
  exact ⟨hall.inside.trans ⟨fun h => ⟨h.1, h.2.1, h.2.2.1, h.2.2.2.1, h.2.2.2.2.1⟩,
    fun h => ⟨h.ssid, h.rates, h.wpa, h.wmm, h.htCap, fun e he _ => h.htCap e he⟩⟩, hall.post⟩

def installed (len : ℕ) (s : Regions Area) : Mem :=
  putBytes (putBytes (s .ies) 0 (List.replicate MAX_IE_SZ 0)) 0 (bytesAt (s .pbuf) 0 len)

variable {s : Regions Area}

theorem installed_at {x : ℕ} (hx : x < len) : installed len s x = s .pbuf x := by
  have hin := putBytes_inside (putBytes (s .ies) 0 (List.replicate MAX_IE_SZ 0)) 0 (bytesAt (s .pbuf) 0 len) x
    (by rw [bytesAt_length]; exact hx)
  have hget := getD_bytesAt (m := s .pbuf) (l := bytesAt (s .pbuf) 0 len) 0 (by rw [bytesAt_length]) x
    (by rw [bytesAt_length]; exact hx)
  rw [zero_add] at hin hget
  rw [installed, hin, hget]

theorem bytesAt_installed {p k : ℕ} (h : p + k ≤ len) : bytesAt (installed len s) (p : ℕ) k = bytesAt (s .pbuf) (p : ℕ) k :=
  bytesAt_congr k fun j hj => by
    have hat := @installed_at len s (p + j) (by omega)
    push_cast at hat
    exact hat

theorem gives_rtwCheckBeaconData (hap : a.apState = true) (hmode : a.apMode = true) (hlen : len ≤ MAX_IE_SZ) :
    GivesIff (Keeps len) (rtwCheckBeaconData a len) s (Rooms a len (installed len s)) fun r u =>
      ∃ f, r = some f ∧ ReadOf a len (installed len s) f u := by
  have hnot : ¬(!a.apState) = true := by rw [hap]; exact Bool.false_ne_true
  have hstay : ¬(!a.apMode) = true := by rw [hmode]; exact Bool.false_ne_true
  rw [rtwCheckBeaconData, if_neg hnot, if_neg (by omega), if_neg hstay]
  have hclear : Gives (Keeps len) (store .ies 0 (List.replicate MAX_IE_SZ 0)) s fun _ u =>
      u = Function.update s .ies (putBytes (s .ies) 0 (List.replicate MAX_IE_SZ 0)) :=
    ⟨(inside_store_iff _ _ _ _ _).mpr fun k _ => keeps_none rfl (by decide) _, rfl⟩
  refine .after hclear fun _ u hu => ?_
  subst hu
  have hput : Gives (Keeps len) (memcpy .ies 0 .pbuf 0 len)
      (Function.update s .ies (putBytes (s .ies) 0 (List.replicate MAX_IE_SZ 0))) fun _ u => u .ies = installed len s := by
    refine ⟨?_, ?_⟩
    · rw [memcpy, inside_bind, inside_load_iff, inside_store_iff]
      exact ⟨fun k _ => keeps_none rfl (by decide) _, fun k _ => keeps_none rfl (by decide) _⟩
    · rw [memcpy_st, Function.update_self, Function.update_self, Function.update_of_ne (by decide)]
      rfl
  refine .after hput fun _ u hu => ?_
  have hread := @gives_readBeacon a len u (installed len s) hu
  exact ⟨(inside_map _ _ _ _).trans hread.inside, _, rfl, hread.post⟩

end

/-! ## What the loops end with -/

section
variable {oui : List UInt8} {len : ℕ} {m : Mem}

def startsWith (oui : List UInt8) (e : Tlv) : Bool := e.id == _VENDOR_SPECIFIC_IE_ && e.body.take oui.length == oui

theorem bytes_start {e : Tlv} {p : ℤ} (hbody : bytesAt m (p + 2) e.body.length = e.body) {k : ℕ} (hk : k ≤ e.body.length) :
    bytesAt m (p + 2) k = e.body.take k := by
  obtain ⟨n, hn⟩ := Nat.exists_eq_add_of_le hk
  rw [hn, bytesAt_add] at hbody
  rw [← hbody, List.take_left' (bytesAt_length k)]

theorem startsWith_iff {e : Tlv} : startsWith oui e = true ↔ e.id = _VENDOR_SPECIFIC_IE_ ∧ e.body.take oui.length = oui := by
  rw [startsWith, Bool.and_eq_true, beq_iff_eq, beq_iff_eq]

theorem startsWith_length {e : Tlv} (h : e.body.take oui.length = oui) : oui.length ≤ e.body.length := by
  have hlen := congrArg List.length h
  rw [List.length_take] at hlen
  omega

theorem vendorHit_at (es : List Tlv) (i : ℕ) (hbytes : bytesAt m (i : ℕ) (encodeAll es).length = encodeAll es) {q : ℕ} {e : Tlv}
    (h : vendorHit oui len m i es = some (q, e)) : m q = _VENDOR_SPECIFIC_IE_ ∧ e.body.length = (m (q + 1)).toNat ∧
      bytesAt m (q + 2) e.body.length = e.body ∧ bytesAt m (q + 2) oui.length = oui := by
  induction es generalizing i with
  | nil => cases h
  | cons x rest ih =>
    have hbody := body_at hbytes
    rw [encodeAll_cons] at hbytes
    obtain ⟨hat, hcount, hrest⟩ := encode_at hbytes
    have hplace : (i : ℤ) + x.size = (i + x.size : ℕ) := by push_cast; rfl
    rw [hplace] at hrest
    rw [vendorHit] at h
    split at h
    next hid =>
      split at h
      next hhit =>
        obtain ⟨rfl, rfl⟩ := Prod.mk.inj (Option.some.inj h)
        exact ⟨hat.trans hid, hcount.symm, hbody, by exact_mod_cast hhit.2⟩
      next hmiss =>
        split at h
        · cases h
        · exact ih _ hrest h
    next hid => exact ih _ hrest h

theorem vendorHit_first (es : List Tlv) (i : ℕ) (hbytes : bytesAt m (i : ℕ) (encodeAll es).length = encodeAll es)
    (hlen : len = i + (encodeAll es).length) {q : ℕ} {e : Tlv} (h : vendorHit oui len m i es = some (q, e))
    (hstart : e.body.take oui.length = oui) : es.find? (startsWith oui) = some e := by
  induction es generalizing i with
  | nil => cases h
  | cons x rest ih =>
    have hbody := body_at hbytes
    rw [encodeAll_cons, List.length_append, encode_length] at hlen
    rw [encodeAll_cons] at hbytes
    obtain ⟨-, -, hrest⟩ := encode_at hbytes
    have hplace : (i : ℤ) + x.size = (i + x.size : ℕ) := by push_cast; rfl
    rw [hplace] at hrest
    rw [vendorHit] at h
    rw [List.find?_cons]
    split at h
    next hid =>
      split at h
      next hhit =>
        obtain ⟨-, rfl⟩ := Prod.mk.inj (Option.some.inj h)
        rw [startsWith_iff.mpr ⟨hid, hstart⟩]
      next hmiss =>
        have hother : startsWith oui x = false := by
          refine Bool.eq_false_iff.mpr fun hx => hmiss ?_
          have htake := (startsWith_iff.mp hx).2
          have hfits := startsWith_length htake
          have hsize : x.size = x.body.length + 2 := rfl
          refine ⟨by omega, ?_⟩
          rw [Nat.cast_add, Nat.cast_ofNat, bytes_start hbody hfits, htake]
        rw [hother]
        split at h
        · cases h
        · exact ih _ hrest (by omega) h
    next hid =>
      have hother : startsWith oui x = false := Bool.eq_false_iff.mpr fun hx => hid (startsWith_iff.mp hx).1
      rw [hother]
      exact ih _ hrest (by omega) h

end

/-! ## Beacons that hold a list -/

section
variable {a : BeaconConf} {len : ℕ} {m : Mem} {es : List Tlv}

theorem found_list (hbytes : bytesAt m (12 : ℕ) (encodeAll es).length = encodeAll es)
    (hlen : len = 12 + (encodeAll es).length) (index : UInt8) :
    (firstIe es index = none ∧ found index len m = none) ∨
      ∃ e p, firstIe es index = some e ∧ found index len m = some (p, e.body.length) ∧ m p = index ∧
        e.body.length = (m (p + 1)).toNat ∧ bytesAt m (p + 2) e.body.length = e.body := by
  have hlimit : (len : ℤ) - _BEACON_IE_OFFSET_ = (encodeAll es).length := by
    have htwelve : _BEACON_IE_OFFSET_ = 12 := rfl
    omega
  rw [found, hlimit]
  rcases exists_first (fun e => e.id == index) es with hnone | ⟨pre, e, post, rfl, hid, hpre⟩
  · exact .inl ⟨List.find?_eq_none.mpr hnone, rtwGetIe_none hbytes fun x hx hid => hnone x hx (by rw [hid, beq_self_eq_true])⟩
  · have hid : e.id = index := beq_iff_eq.mp hid
    have hbehind := encoding_behind hbytes
    have hbody := body_at hbehind
    rw [encodeAll_cons] at hbehind
    obtain ⟨hat, hcount, -⟩ := encode_at hbehind
    refine .inr ⟨e, _, ?_, hid ▸ rtwGetIe_found hbytes rfl fun x hx hx' => hpre x hx (by rw [hx', hid, beq_self_eq_true]), ?_, hcount.symm, hbody⟩
    · exact List.find?_eq_some_iff_append.mpr ⟨beq_iff_eq.mpr hid, pre, post, rfl, fun x hx => by simpa using hpre x hx⟩
    · exact hat.trans hid

/-- What the loops find in a list is told truly, and what is changed around the WMM and HT elements is not. -/
structure Told (a : BeaconConf) (fixed : List UInt8) (es : List Tlv) (len : ℕ) (m : Mem) : Prop where
  privacy : (fixed.getD 0 0).toNat.testBit 4 = (fixed.getD 10 0).toNat.testBit 4
  ssid : ∀ e, firstIe es _SSID_IE_ = some e → e.body = [] → a.ssidLength = 0
  wpa : ∀ e, es.find? isWpa = some e →
    (vendorHit OUI1 len m 12 es).map (·.2) = some e ∨ Tells wpaSuites (e.body.drop 6) 0 0
  wmm : a.wmmEnable = true → (vendorHit WMM_PARA_IE len m 12 es).isSome = true →
    es.any isWmmParameter = true ∨ a.htEnable = true ∧ es.any isHtCap = true
  ht : ¬(a.wmmEnable = true ∧ (vendorHit WMM_PARA_IE len m 12 es).isSome = true) →
    ((a.wmmEnable && es.any isWmmParameter) || (a.htEnable && es.any isHtCap)) = true →
      a.htEnable = true ∧ ∃ e, firstIe es _HT_CAPABILITY_IE_ = some e ∧ e.body ≠ []
  kept : ∀ edit ∈ wmmFoundEdits a len m ++ htFoundEdits a len m, ∀ x : ℕ, edit.1 = x → x < len → ¬InEdited es x →
    editBytes m (wmmFoundEdits a len m ++ htFoundEdits a len m) x = m x

theorem privacy_iff {fixed : List UInt8} {r : BeaconFacts} {u : Regions Area} (h : ReadOf a len m r u)
    (hfixed : bytesAt m (0 : ℕ) fixed.length = fixed) (htwelve : fixed.length = 12) :
    r.privacy = (fixed.getD 10 0).toNat.testBit 4 ↔ (fixed.getD 0 0).toNat.testBit 4 = (fixed.getD 10 0).toNat.testBit 4 := by
  have hzero := getD_bytesAt ((0 : ℕ) : ℤ) hfixed 0 (by omega)
  have hle : leAt m 0 2 = 2 ^ 8 * ((m 1).toNat + 256 * 0) + (m ((0 : ℕ) + (0 : ℕ))).toNat := by
    rw [Nat.add_comm]
    rfl
  rw [h.privacy, hle, Nat.testBit_two_pow_mul_add _ (UInt8.toNat_lt _), if_pos (by decide), hzero]

theorem kept_iff (hlen : len = 12 + (encodeAll es).length) {u : Regions Area} {m' : Mem} {edits : List (ℤ × (UInt8 → UInt8))} (hies : u .ies = editBytes m edits)
    (hsame : ∀ x : ℕ, x < len → m x = m' x) :
    (∀ x : ℕ, x < 12 + (encodeAll es).length → ¬InEdited es x → u .ies x = m' x) ↔
      ∀ edit ∈ edits, ∀ x : ℕ, edit.1 = x → x < len → ¬InEdited es x → editBytes m edits x = m x := by
  rw [hies, ← hlen]
  constructor
  · intro h edit _ x _ hx hout
    rw [h x hx hout, hsame x hx]
  · intro h x hx hout
    rw [← hsame x hx]
    by_cases hedit : ∃ edit ∈ edits, edit.1 = (x : ℤ)
    · obtain ⟨edit, hmem, hat⟩ := hedit
      exact h edit hmem x hat hx hout
    · exact editBytes_other m edits fun edit hmem hat => hedit ⟨edit, hmem, hat⟩

section
variable (hbytes : bytesAt m (12 : ℕ) (encodeAll es).length = encodeAll es) (hlen : len = 12 + (encodeAll es).length)
include hbytes hlen

theorem notEmpty_list (index : UInt8) :
    (notEmpty (found index len m) = none ∧ ∀ e, firstIe es index = some e → e.body = []) ∨
      ∃ e p, firstIe es index = some e ∧ e.body ≠ [] ∧ notEmpty (found index len m) = some (p, e.body.length) ∧ m p = index ∧
        e.body.length = (m (p + 1)).toNat ∧ bytesAt m (p + 2) e.body.length = e.body := by
  rcases found_list hbytes hlen index with ⟨hnone, hfound⟩ | ⟨e, p, hfirst, hfound, hrest⟩
  · exact .inl ⟨by rw [hfound]; rfl, fun e he => absurd (hnone.symm.trans he) (Option.some_ne_none e).symm⟩
  · by_cases hempty : e.body = []
    · refine .inl ⟨?_, fun e' he' => Option.some.inj (hfirst.symm.trans he') ▸ hempty⟩
      rw [hfound, notEmpty, Option.filter_some, hempty]
      rfl
    · refine .inr ⟨e, p, hfirst, hempty, ?_, hrest⟩
      rw [hfound, notEmpty, Option.filter_some, if_pos (by simpa using List.length_pos_iff.mpr hempty)]

theorem ssid_iff {r : BeaconFacts} {u : Regions Area} (h : ReadOf a len m r u) :
    (∀ e, firstIe es _SSID_IE_ = some e → bytesAt (u .ssid) 0 r.ssidLength = e.body) ↔
      ∀ e, firstIe es _SSID_IE_ = some e → e.body = [] → a.ssidLength = 0 := by
  refine forall_congr' fun e => imp_congr_right fun hfirst => ?_
  rcases notEmpty_list hbytes hlen _SSID_IE_ with ⟨hnone, hempty⟩ | ⟨e', p, hfirst', hsome, hfound, -, -, hbody⟩
  · have hlength := h.ssidLength
    rw [hnone] at hlength
    rw [hempty e hfirst, hlength]
    constructor
    · intro hnil _
      have hzero := congrArg List.length hnil
      rwa [bytesAt_length] at hzero
    · intro hzero
      show bytesAt (u .ssid) 0 a.ssidLength = []
      rw [hzero rfl]
      rfl
  · obtain rfl := Option.some.inj (hfirst.symm.trans hfirst')
    have hlength := h.ssidLength
    have hssid := h.ssid _ hfound
    rw [hfound] at hlength
    rw [hlength]
    exact iff_of_true (hssid.trans hbody) fun hnil => absurd hnil hsome

theorem channel_true {r : BeaconFacts} {u : Regions Area} (h : ReadOf a len m r u) (e : Tlv) (c : UInt8) (rest : List UInt8)
    (hfirst : firstIe es _DSSET_IE_ = some e) (hbody : e.body = c :: rest) : r.dsConfig = c := by
  rcases notEmpty_list hbytes hlen _DSSET_IE_ with ⟨-, hempty⟩ | ⟨e', p, hfirst', -, hfound, -, -, hat⟩
  · rw [hempty e hfirst] at hbody
    exact absurd hbody (List.cons_ne_nil _ _).symm
  · obtain rfl := Option.some.inj (hfirst.symm.trans hfirst')
    rw [h.dsConfig, hfound]
    rw [hbody] at hat
    have hhead := congrArg List.head? hat
    rw [List.length_cons, Nat.add_comm, bytesAt_add] at hhead
    show m (p + 2) = c
    have hone : bytesAt m (p + 2) 1 = [m (p + 2 + (0 : ℕ))] := rfl
    rw [hone, Nat.cast_zero, add_zero] at hhead
    exact Option.some.inj hhead

theorem rsn_true {r : BeaconFacts} {u : Regions Area} (h : ReadOf a len m r u) :
    Tells rsnSuites ((firstIe es _RSN_IE_2_).elim [] (·.body.drop 2)) r.wpa2GroupCipher r.wpa2PairwiseCipher := by
  rw [h.rsn.1, h.rsn.2, rsnTold]
  rcases notEmpty_list hbytes hlen _RSN_IE_2_ with ⟨hnone, hempty⟩ | ⟨e, p, hfirst, -, hfound, hid, hcount, hbody⟩
  · rw [hnone]
    cases hfirst : firstIe es _RSN_IE_2_ with
    | none => exact ciphersOf_none rsnSuites
    | some e =>
      show Tells rsnSuites (e.body.drop 2) _ _
      rw [hempty e hfirst]
      exact ciphersOf_none rsnSuites
  · rw [hfirst, hfound]
    have htells := ciphersOf_rsn hid hcount
    rw [hbody] at htells
    exact htells

/-- A search from the start that stays before `len` ends with an element of the list. -/
theorem vendorFound_list {oui : List UInt8} (houi : 0 < oui.length) (hroom : LoopRoom oui len m len _BEACON_IE_OFFSET_ 0) :
    vendorFound oui len m = (vendorHit oui len m 12 es).map fun e => ((e.1 : ℤ), e.2.body.length) := by
  have hcount := length_le_encodeAll es
  exact vendorLoop_list houi len es 12 0 (by omega) hbytes hlen (.inl ⟨rfl, rfl⟩) hroom

theorem wpa_iff {r : BeaconFacts} {u : Regions Area} (h : ReadOf a len m r u) (hroom : WpaRoom len m) :
    Tells wpaSuites ((es.find? isWpa).elim [] (·.body.drop 6)) r.wpaGroupCipher r.wpaPairwiseCipher ↔
      ∀ e, es.find? isWpa = some e →
        (vendorHit OUI1 len m 12 es).map (·.2) = some e ∨ Tells wpaSuites (e.body.drop 6) 0 0 := by
  -- nothing is told: right when there is no WPA element, or it tells nothing
  have hnothing : (∀ e, es.find? isWpa = some e → (vendorHit OUI1 len m 12 es).map (·.2) ≠ some e) →
      (Tells wpaSuites ((es.find? isWpa).elim [] (·.body.drop 6)) 0 0 ↔ ∀ e, es.find? isWpa = some e →
        (vendorHit OUI1 len m 12 es).map (·.2) = some e ∨ Tells wpaSuites (e.body.drop 6) 0 0) := by
    intro hother
    cases hfirst : es.find? isWpa with
    | none => exact iff_of_true (ciphersOf_none wpaSuites) fun e he => absurd he.symm (Option.some_ne_none e)
    | some e =>
      constructor
      · intro htells e' he'
        exact .inr (Option.some.inj he' ▸ htells)
      · intro hall
        exact (hall e rfl).resolve_left (hother e hfirst)
  have hfound : vendorFound OUI1 len m = (vendorHit OUI1 len m 12 es).map fun e => ((e.1 : ℤ), e.2.body.length) :=
    vendorFound_list hbytes hlen (by decide) hroom.1
  rw [h.wpa.1, h.wpa.2, wpaTold, hfound]
  cases hhit : vendorHit OUI1 len m 12 es with
  | none =>
    rw [hhit] at hnothing
    exact hnothing fun e _ hsome => Option.some_ne_none e hsome.symm
  | some hit =>
    obtain ⟨q, e⟩ := hit
    obtain ⟨hid, hcount, hbody, houi⟩ := vendorHit_at es 12 hbytes hhit
    rw [hhit] at hnothing
    rw [Option.map_some, Option.bind_some]
    by_cases hfits : 4 ≤ e.body.length
    · -- the element that is found is a WPA element
      have hstart : e.body.take 4 = OUI1 := (bytes_start hbody hfits).symm.trans houi
      have hfirst : es.find? isWpa = some e := vendorHit_first es 12 hbytes hlen hhit hstart
      have htells := ciphersOf_wpa hid houi hcount
      rw [hbody] at htells
      rw [hfirst]
      exact iff_of_true htells fun e' he' => .inl he'
    · -- its bytes reach into the next element
      obtain ⟨hgroup, hpairwise⟩ := told_short hid houi hcount (by omega)
      rw [hgroup, hpairwise]
      refine hnothing fun e' hfirst hsame => hfits ?_
      obtain rfl := Option.some.inj hsame
      have hwpa : startsWith OUI1 e = true := List.find?_some hfirst
      exact startsWith_length (startsWith_iff.mp hwpa).2

theorem qos_iff {r : BeaconFacts} {u : Regions Area} (h : ReadOf a len m r u) (hroom : a.wmmEnable = true → WmmRoom len m) :
    r.qosOption = ((a.wmmEnable && es.any isWmmParameter) || (a.htEnable && es.any isHtCap)) ↔
      (a.wmmEnable = true → (vendorHit WMM_PARA_IE len m 12 es).isSome = true →
        es.any isWmmParameter = true ∨ a.htEnable = true ∧ es.any isHtCap = true) ∧
      (¬(a.wmmEnable = true ∧ (vendorHit WMM_PARA_IE len m 12 es).isSome = true) →
        ((a.wmmEnable && es.any isWmmParameter) || (a.htEnable && es.any isHtCap)) = true →
          a.htEnable = true ∧ ∃ e, firstIe es _HT_CAPABILITY_IE_ = some e ∧ e.body ≠ []) := by
  have hsome : a.wmmEnable = true → (vendorFound WMM_PARA_IE len m).isSome = (vendorHit WMM_PARA_IE len m 12 es).isSome := by
    intro hwmm
    rw [vendorFound_list hbytes hlen (by decide) (hroom hwmm).1, Option.isSome_map]
  by_cases hhit : a.wmmEnable = true ∧ (vendorHit WMM_PARA_IE len m 12 es).isSome = true
  · -- the network has WMM
    obtain ⟨hwmm, hhit⟩ := hhit
    rw [h.qos, hsome hwmm, hwmm, hhit, Bool.true_and, Bool.true_or, eq_comm, Bool.true_and, Bool.or_eq_true, Bool.and_eq_true]
    exact ⟨fun htells => ⟨fun _ _ => htells, fun hnot => absurd ⟨rfl, rfl⟩ hnot⟩, fun hall => hall.1 rfl rfl⟩
  · -- nothing was changed before the HT capabilities are searched
    have hoff : (a.wmmEnable && (vendorFound WMM_PARA_IE len m).isSome) = false := by
      refine Bool.eq_false_iff.mpr fun hboth => hhit ?_
      obtain ⟨hwmm, hfound⟩ := Bool.and_eq_true_iff.mp hboth
      exact ⟨hwmm, (hsome hwmm).symm.trans hfound⟩
    have hedits : wmmFoundEdits a len m = [] := by
      rw [wmmFoundEdits]
      split
      next hwmm =>
        rw [hwmm, Bool.true_and, Option.isSome_eq_false_iff, Option.isNone_iff_eq_none] at hoff
        rw [hoff]
        rfl
      · rfl
    have hsame : editBytes m [] = m := rfl
    have hht : (notEmpty (found _HT_CAPABILITY_IE_ len m)).isSome = true ↔
        ∃ e, firstIe es _HT_CAPABILITY_IE_ = some e ∧ e.body ≠ [] := by
      rcases notEmpty_list hbytes hlen _HT_CAPABILITY_IE_ with ⟨hnone, hempty⟩ | ⟨e, p, hfirst, hbody, hfound, -, -, -⟩
      · rw [hnone]
        refine iff_of_false Bool.false_ne_true ?_
        rintro ⟨e, he, hne⟩
        exact hne (hempty e he)
      · rw [hfound]
        exact iff_of_true rfl ⟨e, hfirst, hbody⟩
    have hqos : r.qosOption = true ↔ a.htEnable = true ∧ ∃ e, firstIe es _HT_CAPABILITY_IE_ = some e ∧ e.body ≠ [] := by
      rw [h.qos, hoff, hedits, hsame, Bool.false_or, Bool.and_eq_true, hht, and_comm]
    have hback : (a.htEnable = true ∧ ∃ e, firstIe es _HT_CAPABILITY_IE_ = some e ∧ e.body ≠ []) →
        ((a.wmmEnable && es.any isWmmParameter) || (a.htEnable && es.any isHtCap)) = true := by
      rintro ⟨hen, e, hfirst, -⟩
      have hany : es.any isHtCap = true := List.any_eq_true.mpr ⟨e, List.mem_of_find?_eq_some hfirst, List.find?_some hfirst⟩
      rw [hen, hany, Bool.true_and, Bool.or_true]
    rw [Bool.eq_iff_iff, hqos]
    exact ⟨fun hiff => ⟨fun hwmm hfound => absurd ⟨hwmm, hfound⟩ hhit, fun _ => hiff.mpr⟩, fun hall => ⟨hback, hall.2 hhit⟩⟩

end

end

/-! ## Beacons without vendor specific elements -/

section
variable {a : BeaconConf} {len : ℕ} {m : Mem} {es : List Tlv}

theorem searchRoom_start : SearchRoom len m _BEACON_IE_OFFSET_ (nextLimit len 0) := by
  by_cases hnone : nextLimit len 0 < 1
  · exact .inl hnone
  · refine .inr fun k hk => ?_
    have hlt := hk.lt (nextLimit len 0).toNat (by omega) fun i j h => (nextElement_lt h).2
    have hlimit : nextLimit len 0 = (len : ℤ) - 12 - (0 + 2 : ℕ) := rfl
    have htwelve : _BEACON_IE_OFFSET_ = 12 := rfl
    omega

section
variable (hes : ∀ x ∈ es, x.id ≠ _VENDOR_SPECIFIC_IE_)
  (hbytes : bytesAt m (12 : ℕ) (encodeAll es).length = encodeAll es) (hlen : len = 12 + (encodeAll es).length)
include hes

theorem vendorHit_plain (oui : List UInt8) : vendorHit oui len m 12 es = none := by
  have happend := @vendorHit_append oui len m es [] hes 12
  rwa [List.append_nil] at happend

include hbytes hlen

theorem loopRoom_plain (oui : List UInt8) (fuel : ℕ) : LoopRoom oui len m fuel _BEACON_IE_OFFSET_ 0 := by
  cases fuel with
  | zero => trivial
  | succ fuel =>
    refine ⟨searchRoom_start, fun q n hnext => ?_⟩
    have hnone : nextVendor len m _BEACON_IE_OFFSET_ 0 = none := nextVendor_none es hes hbytes hlen searchRoom_start
    rw [hnone] at hnext
    cases hnext

theorem vendorFound_plain {oui : List UInt8} (houi : 0 < oui.length) : vendorFound oui len m = none := by
  rw [vendorFound_list hbytes hlen houi (loopRoom_plain hes hbytes hlen oui len), vendorHit_plain hes]
  rfl

theorem wmmFoundEdits_plain : wmmFoundEdits a len m = [] := by
  rw [wmmFoundEdits, vendorFound_plain hes hbytes hlen (by decide)]
  split <;> rfl

theorem rooms_plain (hlegal : Legal es) (hht : ∀ e, firstIe es _HT_CAPABILITY_IE_ = some e → e.body.length ≤ 26) :
    Rooms a len m := by
  have hbound : ∀ index limit, (∀ e, firstIe es index = some e → e.body.length ≤ limit) →
      ∀ e, notEmpty (found index len m) = some e → e.2 ≤ limit := by
    intro index limit hshort e he
    rcases notEmpty_list hbytes hlen index with ⟨hnone, -⟩ | ⟨e', p, hfirst, -, hfound, -⟩
    · rw [hnone] at he
      cases he
    · rw [hfound] at he
      exact Option.some.inj he ▸ hshort e' hfirst
  have hrate : ∀ index, foundLength index len m = (firstIe es index).elim 0 (·.body.length) := by
    intro index
    rcases found_list hbytes hlen index with ⟨hnone, hfound⟩ | ⟨e, p, hfirst, hfound, -⟩
    · rw [foundLength, hfound, hnone]
      rfl
    · rw [foundLength, hfound, hfirst]
      rfl
  refine ⟨hbound _ _ hlegal.ssid, ?_, ⟨loopRoom_plain hes hbytes hlen OUI1 len, ?_⟩, fun _ =>
    ⟨loopRoom_plain hes hbytes hlen WMM_PARA_IE len, ?_⟩, ?_⟩
  · rw [hrate, hrate]
    exact hlegal.rates
  · rw [vendorFound_plain hes hbytes hlen (by decide)]
    exact fun e he => absurd he.symm (Option.some_ne_none e)
  · rw [vendorFound_plain hes hbytes hlen (by decide)]
    exact fun e he => absurd he.symm (Option.some_ne_none e)
  · rw [wmmFoundEdits_plain hes hbytes hlen]
    exact hbound _ _ hht

end

end

/-! ## The claim on beacons -/

section
variable {a : BeaconConf} {len : ℕ} {s : Regions Area} {fixed : List UInt8} {es : List Tlv}

theorem installed_list (hfixed : fixed.length = 12) (hbytes : bytesAt (s .pbuf) 0 len = fixed ++ encodeAll es) :
    bytesAt (installed len s) (0 : ℕ) fixed.length = fixed ∧
      bytesAt (installed len s) (12 : ℕ) (encodeAll es).length = encodeAll es ∧ len = 12 + (encodeAll es).length := by
  obtain ⟨hlen, hhead, htail⟩ := bytesAt_eq_append.mp hbytes
  rw [hfixed] at hlen htail
  have hplace : (0 : ℤ) + (12 : ℕ) = (12 : ℕ) := zero_add _
  rw [hplace] at htail
  exact ⟨(bytesAt_installed (by omega)).trans hhead, (bytesAt_installed (by omega)).trans htail, hlen⟩

theorem follows_iff (hfixed : fixed.length = 12) (hbytes : bytesAt (s .pbuf) 0 len = fixed ++ encodeAll es)
    {r : BeaconFacts} {u : Regions Area} (hrooms : Rooms a len (installed len s)) (h : ReadOf a len (installed len s) r u) :
    Follows a fixed es (s .pbuf) r u ↔ Told a fixed es len (installed len s) := by
  obtain ⟨hhead, hlist, hlen⟩ := installed_list hfixed hbytes
  have hprivacy := privacy_iff h hhead hfixed
  have hssid := ssid_iff hlist hlen h
  have hwpa := wpa_iff hlist hlen h hrooms.wpa
  have hqos := qos_iff hlist hlen h hrooms.wmm
  have hkept := @kept_iff len _ es hlen u (s .pbuf) _ h.ies fun x hx => installed_at hx
  constructor
  · intro hfollows
    obtain ⟨hwmm, hht⟩ := hqos.mp hfollows.qos
    exact ⟨hprivacy.mp hfollows.privacy, hssid.mp hfollows.ssid, hwpa.mp hfollows.wpa, hwmm, hht, hkept.mp hfollows.kept⟩
  · intro htold
    exact ⟨hprivacy.mpr htold.privacy, hssid.mpr htold.ssid, channel_true hlist hlen h, rsn_true hlist hlen h,
      hwpa.mpr htold.wpa, hqos.mpr ⟨htold.wmm, htold.ht⟩, hkept.mpr htold.kept⟩

/-- A beacon is installed as it should be just when nothing is too long, the searches stay inside, and no slip shows. -/
theorem installs_iff (a : BeaconConf) (len : ℕ) (s : Regions Area) (hap : a.apState = true) (hmode : a.apMode = true)
    (hlen : len ≤ MAX_IE_SZ) : Installs a len s ↔ Rooms a len (installed len s) ∧
      ∀ fixed es, fixed.length = 12 → bytesAt (s .pbuf) 0 len = fixed ++ encodeAll es → Legal es →
        Told a fixed es len (installed len s) := by
  have hcheck := @gives_rtwCheckBeaconData a len s hap hmode hlen
  obtain ⟨f, hf, hread⟩ := hcheck.post
  constructor
  · intro h
    have hrooms := hcheck.inside.mp h.inside
    refine ⟨hrooms, fun fixed es hfixed hbytes hlegal => ?_⟩
    obtain ⟨r, hr, hfollows⟩ := h.follows fixed es hfixed hbytes hlegal
    obtain rfl := Option.some.inj (hf.symm.trans hr)
    exact (follows_iff hfixed hbytes hrooms hread).mp hfollows
  · rintro ⟨hrooms, htold⟩
    exact ⟨hcheck.inside.mpr hrooms, fun fixed es hfixed hbytes hlegal =>
      ⟨f, hf, (follows_iff hfixed hbytes hrooms hread).mpr (htold fixed es hfixed hbytes hlegal)⟩⟩

theorem sample_short : ([0x61, 0x70] : List UInt8).length < 256 := by decide

def sampleSsid : Tlv where
  id := _SSID_IE_
  body := [0x61, 0x70]
  short := sample_short

def sampleBeacon : Regions Area := fun _ x => (List.replicate 12 0 ++ encodeAll [sampleSsid]).getD x.toNat 0

theorem installs_sample : Installs { wmmEnable := true, htEnable := true } 16 sampleBeacon := by
  refine (installs_iff { wmmEnable := true, htEnable := true } 16 sampleBeacon rfl rfl (by decide)).mpr ?_
  have hplain : ∀ x ∈ [sampleSsid], x.id ≠ _VENDOR_SPECIFIC_IE_ := by decide
  have hfirst : ∀ index e, firstIe [sampleSsid] index = some e → e = sampleSsid := fun index e he =>
    List.mem_singleton.mp (List.mem_of_find?_eq_some he)
  have hsample : bytesAt (sampleBeacon .pbuf) 0 16 = List.replicate 12 0 ++ encodeAll [sampleSsid] := by decide
  obtain ⟨-, hlist, hlen⟩ := @installed_list 16 sampleBeacon (List.replicate 12 0) [sampleSsid] rfl hsample
  refine ⟨rooms_plain hplain hlist hlen ⟨fun e he => ?_, by decide⟩ fun e he => ?_, fun fixed es hfixed hbytes _ => ?_⟩
  · rw [hfirst _ e he]
    decide
  · rw [hfirst _ e he]
    decide
  · obtain ⟨hhead, htail⟩ := List.append_inj (hbytes.symm.trans hsample) hfixed
    obtain rfl := encodeAll_injective htail
    have hhit : (vendorHit WMM_PARA_IE 16 (installed 16 sampleBeacon) 12 [sampleSsid]).isSome = false := by
      rw [vendorHit_plain hplain]
      rfl
    refine ⟨hhead ▸ rfl, fun _ _ _ => ?_, fun e he => ?_, fun _ hsome => ?_, fun _ htells => ?_, fun edit hedit => ?_⟩
    · rfl
    · have hwpa : [sampleSsid].find? isWpa = none := by decide
      exact absurd (hwpa.symm.trans he) (Option.some_ne_none e).symm
    · exact absurd (hhit.symm.trans hsome) (by decide)
    · exact absurd htells (by decide)
    · rw [wmmFoundEdits_plain hplain hlist hlen, htFoundEdits, wmmFoundEdits_plain hplain hlist hlen] at hedit
      rcases notEmpty_list hlist hlen _HT_CAPABILITY_IE_ with ⟨hnone, -⟩ | ⟨e, p, he, -⟩
      · have hsame : editBytes (installed 16 sampleBeacon) [] = installed 16 sampleBeacon := rfl
        rw [hsame, hnone] at hedit
        cases hedit
      · have hht : firstIe [sampleSsid] _HT_CAPABILITY_IE_ = none := by decide
        exact absurd (hht.symm.trans he) (Option.some_ne_none e).symm

/-- The capabilities tell privacy, and the timestamp has not the bit. -/
def privateBeacon : Regions Area := fun _ x => ([0, 0, 0, 0, 0, 0, 0, 0, 100, 0, 0x11, 0] : List UInt8).getD x.toNat 0

theorem not_installs_private : ¬∀ (a : BeaconConf) (len : ℕ) (s : Regions Area), a.apState = true → a.apMode = true →
    len ≤ MAX_IE_SZ → Installs a len s := by
  intro hall
  have hinstalls := hall {} 12 privateBeacon rfl rfl (by decide)
  have hbytes : bytesAt (privateBeacon .pbuf) 0 12 = [0, 0, 0, 0, 0, 0, 0, 0, 100, 0, 0x11, 0] ++ encodeAll [] := by decide
  obtain ⟨hhead, hlist, hlen⟩ := installed_list rfl hbytes
  have hlegal : Legal [] := ⟨fun e he => absurd he.symm (Option.some_ne_none e), by decide⟩
  have hrooms : Rooms {} 12 (installed 12 privateBeacon) := rooms_plain (fun x hx => absurd hx List.not_mem_nil) hlist hlen hlegal
    fun e he => absurd he.symm (Option.some_ne_none e)
  obtain ⟨f, hf, hread⟩ := (@gives_rtwCheckBeaconData {} 12 privateBeacon rfl rfl (by decide)).post
  obtain ⟨r, hr, hfollows⟩ := hinstalls.follows _ [] rfl hbytes hlegal
  obtain rfl := Option.some.inj (hf.symm.trans hr)
  have hprivacy := ((follows_iff rfl hbytes hrooms hread).mp hfollows).privacy
  exact absurd hprivacy (by decide)

end

end BeaconData

end Rtl8723au
