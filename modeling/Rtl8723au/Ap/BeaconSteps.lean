import Rtl8723au.Ap.BeaconCiphers

/-! The steps of `rtw_check_beacon_data` one by one: when each stays where it should, what it answers and what it changes. -/
namespace Rtl8723au
namespace BeaconData
open AccessM Regions Tlv Security Ieee80211 Mem
set_option autoImplicit false

/-! ## The elements in memory -/

/-- What `rtw_get_ie` finds behind the fixed bytes. -/
def found (index : UInt8) (len : ℕ) (m : Mem) : Option (ℤ × ℕ) :=
  ((rtwGetIe _BEACON_IE_OFFSET_ index ((len : ℤ) - _BEACON_IE_OFFSET_)).run m).val

def foundLength (index : UInt8) (len : ℕ) (m : Mem) : ℕ := (found index len m).elim 0 (·.2)

def rsnTold (len : ℕ) (m : Mem) : Option Ciphers :=
  (notEmpty (found _RSN_IE_2_ len m)).bind fun e =>
    told ((zoom (behind e.1) (rtwParseWpa2Ie (e.2 + 2 : ℕ) ⟨0, 0, none⟩)).run m).val

def vendorFound (oui : List UInt8) (len : ℕ) (m : Mem) : Option (ℤ × ℕ) :=
  ((vendorLoop oui len len _BEACON_IE_OFFSET_ 0).run m).val

def wpaTold (len : ℕ) (m : Mem) : Option Ciphers :=
  (vendorFound OUI1 len m).bind fun e =>
    told ((zoom (behind e.1) (rtwParseWpaIe (e.2 + 2 : ℕ) ⟨0, 0, none⟩)).run m).val

/-- Bytes that are changed one after the other. -/
def editBytes (m : Mem) (edits : List (ℤ × (UInt8 → UInt8))) : Mem :=
  edits.foldl (fun m e => Function.update m e.1 (e.2 (m e.1))) m

def wmmEdits (p : ℤ) : List (ℤ × (UInt8 → UInt8)) :=
  [(p + 8, (· ||| 0x80)), (p + 10, (· &&& 0xef)), (p + 14, (· &&& 0xef)), (p + 18, (· &&& 0xef)), (p + 22, (· &&& 0xef))]

def htEdits (rfType : ℕ) (ccmp : Bool) (p : ℤ) : List (ℤ × (UInt8 → UInt8)) :=
  [(p + 4, (· ||| if ccmp then IEEE80211_HT_AMPDU_PARM_DENSITY else 0)), (p + 4, (· ||| IEEE80211_HT_AMPDU_PARM_FACTOR))] ++
    if rfType = RF_1T1R then [(p + 5, fun _ => 0xff), (p + 6, fun _ => 0)] else []

theorem editBytes_append (m : Mem) (l l' : List (ℤ × (UInt8 → UInt8))) :
    editBytes m (l ++ l') = editBytes (editBytes m l) l' := List.foldl_append

theorem editBytes_other (m : Mem) (l : List (ℤ × (UInt8 → UInt8))) {x : ℤ} (h : ∀ e ∈ l, e.1 ≠ x) : editBytes m l x = m x := by
  induction l generalizing m with
  | nil => rfl
  | cons e l ih =>
    have hrest := ih (Function.update m e.1 (e.2 (m e.1))) fun e' he' => h e' (List.mem_cons_of_mem e he')
    rw [Function.update_of_ne (h e List.mem_cons_self).symm] at hrest
    exact hrest

theorem setWmm_st (m : Mem) (p : ℤ) : ((setWmm p).run m).st = editBytes m (wmmEdits p) := rfl

theorem editHtCap_st (rfType : ℕ) (ccmp : Bool) (m : Mem) (p : ℤ) :
    ((editHtCap rfType ccmp p).run m).st = editBytes m (htEdits rfType ccmp p) := by
  rw [editHtCap, htEdits, bind_st, bind_st, ite_run, editBytes_append]
  split <;> rfl

/-- The edits of the WMM element that is found. -/
def wmmFoundEdits (a : BeaconConf) (len : ℕ) (m : Mem) : List (ℤ × (UInt8 → UInt8)) :=
  if a.wmmEnable then (vendorFound WMM_PARA_IE len m).elim [] fun e => wmmEdits e.1 else []

/-- Those of the HT capabilities that are found then. -/
def htFoundEdits (a : BeaconConf) (len : ℕ) (m : Mem) : List (ℤ × (UInt8 → UInt8)) :=
  (notEmpty (found _HT_CAPABILITY_IE_ len (editBytes m (wmmFoundEdits a len m)))).elim [] fun e =>
    htEdits a.rfType (isCcmp (wpaTold len m) (rsnTold len m)) e.1

/-! ## Copies -/

section
variable {a : BeaconConf} {len : ℕ} {t : Regions Area}

/-- The regions other than the one are as they were. -/
def Others (r : Area) (t u : Regions Area) : Prop := ∀ q, q ≠ r → u q = t q

theorem keeps_none {r : Area} (hr : destination r = none) (hloops : r ≠ .loops) (x : ℤ) : Keeps len (.byte r x) := by
  cases r with
  | loops => exact absurd rfl hloops
  | pbuf => exact fun n hn => absurd hn.symm (Option.some_ne_none n)
  | ies => exact fun n hn => absurd hn.symm (Option.some_ne_none n)
  | _ => cases hr

theorem keeps_some {r : Area} {limit : ℕ} (hr : destination r = some limit) (x : ℤ) :
    Keeps len (.byte r x) ↔ 0 ≤ x ∧ x < limit := by
  have hiff : (∀ n, destination r = some n → 0 ≤ x ∧ x < n) ↔ 0 ≤ x ∧ x < limit :=
    ⟨fun h => h limit hr, fun h n hn => Option.some.inj (hr.symm.trans hn) ▸ h⟩
  cases r with
  | loops => cases hr
  | _ => exact hiff

theorem inside_ies {α : Type} (f : M α) : Inside (Keeps len) (zoom (region Area.ies) f) t := by
  rw [inside_zoom]
  exact fun x _ => keeps_none rfl (by decide) x

theorem inside_loadIes (x : ℤ) (n : ℕ) : Inside (Keeps len) (load .ies x n) t := by
  rw [inside_load_iff]
  exact fun k _ => keeps_none rfl (by decide) _

variable (len) in
/-- Bytes of the elements are copied behind `k` others. -/
theorem gives_copy {r : Area} {limit : ℕ} (hr : destination r = some limit) (k : ℕ) (x : ℤ) (n : ℕ) :
    GivesIff (Keeps len) (memcpy r k .ies x n) t (n = 0 ∨ k + n ≤ limit) fun _ u =>
      Others r t u ∧ bytesAt (u r) k n = bytesAt (t .ies) x n := by
  refine ⟨?_, ?_, ?_⟩
  · rw [memcpy, inside_bind, load_st, inside_store_iff]
    refine (and_iff_right (inside_loadIes x n)).trans ?_
    have hlen : ((load .ies x n).run t).val.length = n := by rw [load_val, List.length_map, List.length_range]
    rw [hlen]
    constructor
    · intro h
      rcases Nat.eq_zero_or_pos n with hzero | hpos
      · exact .inl hzero
      · have hlast := (keeps_some hr _).mp (h (n - 1) (by omega))
        omega
    · exact fun h j hj => (keeps_some hr _).mpr (by omega)
  · intro q hq
    rw [memcpy_st, Function.update_of_ne hq]
  · rw [memcpy_st, Function.update_self]
    have hput := bytesAt_putBytes (m := t r) (p := (k : ℕ)) [] (bytesAt (t .ies) x n) []
    rw [List.nil_append, List.append_nil, List.length_nil, Nat.cast_zero, add_zero, bytesAt_length] at hput
    exact hput

theorem gives_getIe (index : UInt8) : Gives (Keeps len) (getIe index len) t fun v u => v = found index len (t .ies) ∧ u = t := by
  refine ⟨inside_ies _, rfl, ?_⟩
  rw [getIe, zoom_st, rtwGetIe_st]
  exact Function.update_eq_self _ t

theorem Others.trans {r : Area} {t u v : Regions Area} (h : Others r t u) (h' : Others r u v) : Others r t v :=
  fun q hq => (h' q hq).trans (h q hq)

theorem Others.refl (r : Area) (t : Regions Area) : Others r t t := fun _ _ => rfl

theorem gives_clear {r : Area} {limit : ℕ} (hr : destination r = some limit) :
    Gives (Keeps len) (store r 0 (List.replicate limit 0)) t fun _ u => Others r t u := by
  refine ⟨?_, fun q hq => by rw [store_st, Function.update_of_ne hq]⟩
  rw [inside_store_iff]
  intro k hk
  rw [List.length_replicate] at hk
  exact (keeps_some hr _).mpr (by omega)

/-! ## The elements that are found from the start -/

theorem gives_setSsid : GivesIff (Keeps len) (setSsid a len) t
    (∀ e, notEmpty (found _SSID_IE_ len (t .ies)) = some e → e.2 ≤ 32) fun r u =>
      Others .ssid t u ∧ r = (notEmpty (found _SSID_IE_ len (t .ies))).elim a.ssidLength (·.2) ∧
        ∀ e, notEmpty (found _SSID_IE_ len (t .ies)) = some e → bytesAt (u .ssid) 0 e.2 = bytesAt (t .ies) (e.1 + 2) e.2 := by
  refine .after (gives_getIe _SSID_IE_) fun v u hv => ?_
  obtain ⟨rfl, rfl⟩ := hv
  cases hfound : notEmpty (found _SSID_IE_ len (u .ies)) with
  | none =>
    have hnone : ∀ e : ℤ × ℕ, (none : Option (ℤ × ℕ)) ≠ some e := fun e he => absurd he.symm (Option.some_ne_none e)
    exact ⟨iff_of_true (inside_pure _ _ _) fun e he => absurd he (hnone e), .refl _ _, rfl, fun e he => absurd he (hnone e)⟩
  | some e =>
    obtain ⟨p, n⟩ := e
    have hcopy : GivesIff (Keeps len) (do
        store .ssid 0 (List.replicate 32 0)
        memcpy .ssid 0 .ies (p + 2) n
        pure n) u (n ≤ 32) fun r w => Others .ssid u w ∧ r = n ∧ bytesAt (w .ssid) 0 n = bytesAt (u .ies) (p + 2) n := by
      refine .after (gives_clear (r := .ssid) rfl) fun _ v hv => ?_
      have hcopy := gives_copy len (t := v) (r := .ssid) rfl 0 (p + 2) n
      have hiff : n = 0 ∨ 0 + n ≤ 32 ↔ n ≤ 32 := by omega
      rw [hiff] at hcopy
      refine .before hcopy fun _ w hw => .pure ⟨hv.trans hw.1, rfl, ?_⟩
      rw [← hv .ies (by decide)]
      exact hw.2
    refine ⟨hcopy.inside.trans ⟨fun h e he => Option.some.inj he ▸ h, fun h => h _ rfl⟩, hcopy.post.1, hcopy.post.2.1, ?_⟩
    intro e he
    rw [← Option.some.inj he]
    exact hcopy.post.2.2

theorem gives_getChannel : Gives (Keeps len) (getChannel len) t fun r u =>
    r = (notEmpty (found _DSSET_IE_ len (t .ies))).elim 0 (fun e => t .ies (e.1 + 2)) ∧ u = t := by
  refine (gives_getIe _DSSET_IE_).bind fun v u hv => ?_
  obtain ⟨rfl, rfl⟩ := hv
  cases notEmpty (found _DSSET_IE_ len (u .ies)) with
  | none => exact .pure ⟨rfl, rfl⟩
  | some e => exact ⟨(inside_peek _ _ _ _).mpr (keeps_none rfl (by decide) _), rfl, rfl⟩

variable (len) in
theorem gives_addRates (index : UInt8) (k : ℕ) : GivesIff (Keeps len) (addRates index len k) t
    (foundLength index len (t .ies) = 0 ∨ k + foundLength index len (t .ies) ≤ 16) fun r u =>
      Others .supportRate t u ∧ r = k + foundLength index len (t .ies) := by
  refine .after (gives_getIe index) fun v u hv => ?_
  obtain ⟨rfl, rfl⟩ := hv
  rw [foundLength]
  cases found index len (u .ies) with
  | none => exact ⟨iff_of_true (inside_pure _ _ _) (.inl rfl), .refl _ _, rfl⟩
  | some e =>
    obtain ⟨p, n⟩ := e
    exact .before (gives_copy len (r := .supportRate) rfl k (p + 2) n) fun _ w hw => .pure ⟨hw.1, rfl⟩

theorem gives_setRates : GivesIff (Keeps len) (setRates len) t
    (foundLength _SUPPORTEDRATES_IE_ len (t .ies) + foundLength _EXT_SUPPORTEDRATES_IE_ len (t .ies) ≤ 16) fun _ u =>
      Others .supportRate t u := by
  have hboth : GivesIff (Keeps len) (setRates len) t
      ((foundLength _SUPPORTEDRATES_IE_ len (t .ies) = 0 ∨ 0 + foundLength _SUPPORTEDRATES_IE_ len (t .ies) ≤ 16) ∧
        (foundLength _EXT_SUPPORTEDRATES_IE_ len (t .ies) = 0 ∨ 0 + foundLength _SUPPORTEDRATES_IE_ len (t .ies) +
          foundLength _EXT_SUPPORTEDRATES_IE_ len (t .ies) ≤ 16)) fun _ u => Others .supportRate t u := by
    refine .after (gives_clear (r := .supportRate) rfl) fun _ u hu => ?_
    have hies : u .ies = t .ies := hu .ies (by decide)
    have hfirst := gives_addRates len (t := u) _SUPPORTEDRATES_IE_ 0
    rw [hies] at hfirst
    refine .bind hfirst fun r v hv => ?_
    obtain ⟨hv, rfl⟩ := hv
    have hsecond := gives_addRates len (t := v) _EXT_SUPPORTEDRATES_IE_ (0 + foundLength _SUPPORTEDRATES_IE_ len (t .ies))
    rw [hv .ies (by decide), hies] at hsecond
    exact hsecond.mono fun _ w hw => hu.trans (hv.trans hw.1)
  exact ⟨hboth.inside.trans (by omega), hboth.post⟩

theorem gives_copyShort {r : Area} {limit : ℕ} (hr : destination r = some limit) (e : Option (ℤ × ℕ)) :
    Gives (Keeps len) (copyShort r limit e) t fun _ u => Others r t u := by
  cases e with
  | none => exact .pure (.refl _ _)
  | some e =>
    obtain ⟨p, n⟩ := e
    refine .ite (fun _ => .pure (.refl _ _)) fun hshort => ?_
    have hcopy := gives_copy len (t := t) hr 0 (p + 2) n
    exact ⟨hcopy.inside.mpr (.inr (by omega)), hcopy.post.1⟩

theorem gives_parseRsn : Gives (Keeps len) (parseRsn len) t fun r u => r = rsnTold len (t .ies) ∧ u = t := by
  refine (gives_getIe _RSN_IE_2_).bind fun v u hv => ?_
  obtain ⟨rfl, rfl⟩ := hv
  rw [rsnTold]
  cases notEmpty (found _RSN_IE_2_ len (u .ies)) with
  | none => exact .pure ⟨rfl, rfl⟩
  | some e =>
    refine ⟨?_, rfl, ?_⟩
    · rw [inside_bind]
      exact ⟨inside_ies _, inside_pure _ _ _⟩
    · rw [bind_st, pure_st, zoom_st]
      show Function.update u .ies ((zoom (behind e.1) (rtwParseWpa2Ie (e.2 + 2 : ℕ) ⟨0, 0, none⟩)).run (u .ies)).st = u
      rw [behind_st _ (rtwParseWpa2Ie_st _)]
      exact Function.update_eq_self _ u

/-! ## The search loops -/

/-- The search for WPA, and the parser, read before `len`. -/
def WpaRoom (len : ℕ) (m : Mem) : Prop :=
  LoopRoom OUI1 len m len _BEACON_IE_OFFSET_ 0 ∧
    ∀ e, vendorFound OUI1 len m = some e → e.1 + parsedEnd m e.1 e.2 ≤ len

/-- The search for WMM, and the changes, read before `len`. -/
def WmmRoom (len : ℕ) (m : Mem) : Prop :=
  LoopRoom WMM_PARA_IE len m len _BEACON_IE_OFFSET_ 0 ∧ ∀ e, vendorFound WMM_PARA_IE len m = some e → e.1 + 23 ≤ len

theorem gives_inLoop {α : Type} {f : M α} {c : Prop} {Q : α → Mem → Prop}
    (h : GivesIff (fun x => 0 ≤ x ∧ x < (len : ℤ)) f (t .ies) c Q) :
    GivesIff (Keeps len) (zoom inLoop f) t c fun r u => ∃ m, Q r m ∧ u = Function.update t .ies m :=
  ⟨(inside_zoom _ _ _ _).trans h.inside, _, h.post, rfl⟩

theorem offset_nonneg : (0 : ℤ) ≤ _BEACON_IE_OFFSET_ := by decide

variable {m : Mem}

theorem vendorFound_spec {oui : List UInt8} {p : ℤ} {n : ℕ} (h : vendorFound oui len m = some (p, n)) :
    0 ≤ p ∧ m p = _VENDOR_SPECIFIC_IE_ ∧ n = (m (p + 1)).toNat ∧ bytesAt m (p + 2) oui.length = oui ∧
      (LoopRoom oui len m len _BEACON_IE_OFFSET_ 0 → p + 2 + oui.length ≤ len) :=
  vendorLoop_spec len _ 0 offset_nonneg h

theorem gives_searchWpa : GivesIff (fun x => 0 ≤ x ∧ x < (len : ℤ)) (searchWpa len) m (WpaRoom len m) fun r u =>
    r = wpaTold len m ∧ u = m := by
  have hfound : ((vendorLoop OUI1 len len _BEACON_IE_OFFSET_ 0).run m).val = vendorFound OUI1 len m := rfl
  have hloop := @inside_vendorLoop OUI1 len m (by decide) len _BEACON_IE_OFFSET_ 0 offset_nonneg
  rw [searchWpa, wpaTold, WpaRoom]
  refine ⟨?_, ?_, ?_⟩
  · rw [inside_bind, vendorLoop_st, hfound, hloop]
    refine and_congr_right fun hroom => ?_
    cases hsome : vendorFound OUI1 len m with
    | none => exact iff_of_true (inside_pure _ _ _) fun e he => absurd he.symm (Option.some_ne_none e)
    | some e =>
      obtain ⟨p, n⟩ := e
      obtain ⟨hp, hid, hn, hsame, hend⟩ := vendorFound_spec hsome
      have hfour : OUI1.length = 4 := rfl
      have hend := hend hroom
      have hparse := inside_parseWpa hid hsame hn hp (show p + 6 ≤ len by omega)
      dsimp only
      rw [inside_bind, hparse]
      refine (and_iff_left (inside_pure _ _ _)).trans ⟨fun h e he => ?_, fun h => h _ rfl⟩
      rw [← Option.some.inj he]
      exact h
  · rw [bind_val, vendorLoop_st, hfound]
    cases vendorFound OUI1 len m <;> rfl
  · rw [bind_st, vendorLoop_st, hfound]
    cases vendorFound OUI1 len m with
    | none => rfl
    | some e =>
      dsimp only
      rw [bind_st, pure_st]
      exact behind_st _ (rtwParseWpaIe_st _)

theorem gives_wpa : GivesIff (Keeps len) (zoom inLoop (searchWpa len)) t (WpaRoom len (t .ies)) fun r u =>
    r = wpaTold len (t .ies) ∧ u = t := by
  have hloop := gives_inLoop (t := t) (@gives_searchWpa len (t .ies))
  refine hloop.mono fun r u hu => ?_
  obtain ⟨m, ⟨hr, rfl⟩, rfl⟩ := hu
  exact ⟨hr, Function.update_eq_self _ t⟩

theorem inside_setWmm {p : ℤ} (hp : 0 ≤ p) : Inside (fun x => 0 ≤ x ∧ x < (len : ℤ)) (setWmm p) m ↔ p + 23 ≤ len := by
  have halter : ∀ (x : ℤ) (f : UInt8 → UInt8) (m' : Mem),
      Inside (fun x => 0 ≤ x ∧ x < (len : ℤ)) (alter x f) m' ↔ 0 ≤ x ∧ x < (len : ℤ) := by
    intro x f m'
    rw [alter, inside_bind, inside_read, inside_write, and_self]
  rw [setWmm, inside_bind, inside_bind, inside_bind, inside_bind, halter, halter, halter, halter, halter]
  omega

theorem gives_searchWmm : GivesIff (fun x => 0 ≤ x ∧ x < (len : ℤ)) (searchWmm len) m (WmmRoom len m) fun r u =>
    r = (vendorFound WMM_PARA_IE len m).isSome ∧
      u = editBytes m ((vendorFound WMM_PARA_IE len m).elim [] fun e => wmmEdits e.1) := by
  have hfound : ((vendorLoop WMM_PARA_IE len len _BEACON_IE_OFFSET_ 0).run m).val = vendorFound WMM_PARA_IE len m := rfl
  have hloop := @inside_vendorLoop WMM_PARA_IE len m (by decide) len _BEACON_IE_OFFSET_ 0 offset_nonneg
  rw [searchWmm, WmmRoom]
  refine ⟨?_, ?_, ?_⟩
  · rw [inside_bind, vendorLoop_st, hfound, hloop]
    refine and_congr_right fun _ => ?_
    cases hsome : vendorFound WMM_PARA_IE len m with
    | none => exact iff_of_true (inside_pure _ _ _) fun e he => absurd he.symm (Option.some_ne_none e)
    | some e =>
      obtain ⟨p, n⟩ := e
      obtain ⟨hp, -⟩ := vendorFound_spec hsome
      dsimp only
      rw [inside_bind, inside_setWmm hp]
      refine (and_iff_left (inside_pure _ _ _)).trans ⟨fun h e he => ?_, fun h => h _ rfl⟩
      rw [← Option.some.inj he]
      exact h
  · rw [bind_val, vendorLoop_st, hfound]
    cases vendorFound WMM_PARA_IE len m <;> rfl
  · rw [bind_st, vendorLoop_st, hfound]
    cases vendorFound WMM_PARA_IE len m with
    | none => rfl
    | some e =>
      dsimp only
      rw [bind_st, pure_st]
      exact setWmm_st m e.1

theorem gives_wmmOption : GivesIff (Keeps len) (wmmOption a len) t (a.wmmEnable = true → WmmRoom len (t .ies)) fun r u =>
    r = (a.wmmEnable && (vendorFound WMM_PARA_IE len (t .ies)).isSome) ∧
      u = Function.update t .ies (editBytes (t .ies) (wmmFoundEdits a len (t .ies))) := by
  rw [wmmOption, wmmFoundEdits]
  cases a.wmmEnable with
  | false =>
    refine ⟨iff_of_true (inside_pure _ _ _) fun hno => absurd hno Bool.false_ne_true, rfl, ?_⟩
    exact (Function.update_eq_self _ t).symm
  | true =>
    have hloop := gives_inLoop (t := t) (@gives_searchWmm len (t .ies))
    refine ⟨hloop.inside.trans ⟨fun h _ => h, fun h => h rfl⟩, ?_⟩
    obtain ⟨m, ⟨hval, rfl⟩, hst⟩ := hloop.post
    exact ⟨hval, hst⟩

/-! ## The elements for HT -/

theorem gives_setHtCap (ccmp : Bool) : GivesIff (Keeps len) (setHtCap a ccmp len) t
    (∀ e, notEmpty (found _HT_CAPABILITY_IE_ len (t .ies)) = some e → e.2 ≤ 26) fun r u =>
      r = notEmpty (found _HT_CAPABILITY_IE_ len (t .ies)) ∧ u .ssid = t .ssid ∧
        u .ies = editBytes (t .ies) ((notEmpty (found _HT_CAPABILITY_IE_ len (t .ies))).elim [] fun e =>
          htEdits a.rfType ccmp e.1) := by
  refine .after (gives_getIe _HT_CAPABILITY_IE_) fun v u hv => ?_
  obtain ⟨rfl, rfl⟩ := hv
  cases notEmpty (found _HT_CAPABILITY_IE_ len (u .ies)) with
  | none =>
    exact ⟨iff_of_true (inside_pure _ _ _) fun e he => absurd he.symm (Option.some_ne_none e), rfl, rfl, rfl⟩
  | some e =>
    obtain ⟨p, n⟩ := e
    have hedit : Gives (Keeps len) (zoom (region .ies) (editHtCap a.rfType ccmp p)) u fun _ v =>
        v = Function.update u .ies (editBytes (u .ies) (htEdits a.rfType ccmp p)) :=
      ⟨inside_ies _, congrArg (Function.update u .ies) (editHtCap_st a.rfType ccmp (u .ies) p)⟩
    have hall : GivesIff (Keeps len) (do
        zoom (region .ies) (editHtCap a.rfType ccmp p)
        memcpy .htCap 0 .ies (p + 2) n
        pure (some (p, n))) u (n ≤ 26) fun r w =>
          r = some (p, n) ∧ w .ssid = u .ssid ∧ w .ies = editBytes (u .ies) (htEdits a.rfType ccmp p) := by
      refine .after hedit fun _ v hv => ?_
      subst hv
      have hcopy := gives_copy len (t := Function.update u .ies (editBytes (u .ies) (htEdits a.rfType ccmp p)))
        (r := .htCap) rfl 0 (p + 2) n
      have hiff : n = 0 ∨ 0 + n ≤ 26 ↔ n ≤ 26 := by omega
      rw [hiff] at hcopy
      refine .before hcopy fun _ w hw => .pure ⟨rfl, ?_, ?_⟩
      · rw [hw.1 .ssid (by decide), Function.update_of_ne (by decide)]
      · rw [hw.1 .ies (by decide), Function.update_self]
    refine ⟨hall.inside.trans ⟨fun h e he => Option.some.inj he ▸ h, fun h => h _ rfl⟩, hall.post⟩

variable (len) in
theorem gives_meetHtCap (p : ℤ) (i : ℕ) :
    GivesIff (Keeps len) (meetHtCap p i) t (i < 26) fun _ u => Others .htCaps t u := by
  have hkeeps : Keeps len (.byte .htCaps (i : ℕ)) ↔ i < 26 := by
    rw [keeps_some (r := .htCaps) rfl]
    omega
  refine ⟨?_, ?_⟩
  · rw [meetHtCap, inside_bind, inside_peek, inside_bind, inside_peek, inside_poke]
    show Keeps len (.byte .htCaps (i : ℕ)) ∧ Keeps len (.byte .ies (p + 2 + i)) ∧ Keeps len (.byte .htCaps (i : ℕ)) ↔ _
    rw [hkeeps]
    exact ⟨fun h => h.1, fun h => ⟨h, keeps_none rfl (by decide) _, h⟩⟩
  · intro q hq
    rw [meetHtCap, bind_st, peek_st, bind_st, peek_st, poke_st]
    exact Function.update_of_ne hq _ _

variable (len) in
theorem gives_meetMcsRate (rfType i : ℕ) (hi : i < 16) :
    Gives (Keeps len) (meetMcsRate rfType i) t fun _ u => Others .htCaps t u := by
  have hkeeps : Keeps len (.byte .htCaps (3 + i : ℕ)) := (keeps_some (r := .htCaps) rfl _).mpr (by omega)
  refine ⟨?_, ?_⟩
  · rw [meetMcsRate, inside_bind, inside_peek, inside_poke]
    exact ⟨hkeeps, hkeeps⟩
  · intro q hq
    rw [meetMcsRate, bind_st, peek_st, poke_st]
    exact Function.update_of_ne hq _ _

theorem gives_htCapsHandler (rfType : ℕ) (p : ℤ) (n : ℕ) :
    GivesIff (Keeps len) (htCapsHandler rfType p n) t (n ≤ 26) fun _ u => Others .htCaps t u := by
  have hfirst : GivesIff (Keeps len) (loop (meetHtCap p) n) t (n ≤ 26) fun _ u => Others .htCaps t u := by
    refine ⟨?_, ?_⟩
    · rw [inside_loop]
      refine ⟨fun h => ?_, fun h k hk => (gives_meetHtCap len p k).inside.mpr (by omega)⟩
      rcases Nat.eq_zero_or_pos n with rfl | hpos
      · exact Nat.zero_le _
      · have hlast := (gives_meetHtCap len p (n - 1)).inside.mp (h (n - 1) (by omega))
        omega
    · exact loop_invariant (meetHtCap p) (fun _ u => Others .htCaps t u) t n (.refl _ _) fun k _ u hu =>
        hu.trans (gives_meetHtCap len p k).post
  have hsecond : ∀ u, Gives (Keeps len) (loop (meetMcsRate rfType) 16) u fun _ v => Others .htCaps u v := by
    intro u
    refine ⟨(inside_loop _ _ _ _).mpr fun k hk => (gives_meetMcsRate len rfType k hk).inside, ?_⟩
    exact loop_invariant (meetMcsRate rfType) (fun _ v => Others .htCaps u v) u 16 (.refl _ _) fun k hk v hv =>
      hv.trans (gives_meetMcsRate len rfType k hk).post
  exact .before hfirst fun _ u hu => (hsecond u).mono fun _ v hv => hu.trans hv

theorem gives_useHt (htCap htInfo : Option (ℤ × ℕ)) : GivesIff (Keeps len) (useHt a htCap htInfo) t
    (∀ e, htCap = some e → a.htEnable = true → e.2 ≤ 26) fun r u =>
      r = (htCap.isSome && a.htEnable) ∧ u .ssid = t .ssid ∧ u .ies = t .ies := by
  cases htCap with
  | none => exact ⟨iff_of_true (inside_pure _ _ _) fun e he => absurd he.symm (Option.some_ne_none e), rfl, rfl, rfl⟩
  | some e =>
    obtain ⟨p, n⟩ := e
    unfold useHt
    dsimp only
    cases a.htEnable with
    | false =>
      exact ⟨iff_of_true (inside_pure _ _ _) fun _ _ hno => absurd hno Bool.false_ne_true, rfl, rfl, rfl⟩
    | true =>
      have hall : GivesIff (Keeps len) (do
          htCapsHandler a.rfType p n
          htInfoHandler htInfo
          pure true) t (n ≤ 26) fun r u => r = true ∧ u .ssid = t .ssid ∧ u .ies = t .ies := by
        refine .before (gives_htCapsHandler a.rfType p n) fun _ u hu => ?_
        refine (gives_copyShort (r := .htInfo) rfl htInfo).bind fun _ v hv => .pure ⟨rfl, ?_, ?_⟩
        · rw [hv .ssid (by decide), hu .ssid (by decide)]
        · rw [hv .ies (by decide), hu .ies (by decide)]
      exact ⟨hall.inside.trans ⟨fun h e he _ => Option.some.inj he ▸ h, fun h => h _ rfl rfl⟩, hall.post⟩

end

end BeaconData

end Rtl8723au
