import Rtl8723au.Ioctl.KeyBounds

/-! The requests of `hostapd`: which of them are handled inside the copy of the request and inside the arrays that it is
copied to. -/
namespace Rtl8723au
open Mem Security AccessM Regions
set_option autoImplicit false

/-! ## The elements that a search comes to -/

/-- Where the search goes on behind the element at `i`. -/
def nextElement (m : Mem) (pbuf : ℤ) (index : UInt8) (limit i : ℕ) : Option ℕ :=
  if m (pbuf + i) = index then none
  else if limit ≤ i + ((m (pbuf + i + 1)).toNat + 2) then none
  else some (i + ((m (pbuf + i + 1)).toNat + 2))

section
variable {m : Mem} {pbuf : ℤ} {index : UInt8} {limit : ℕ}

theorem nextElement_lt {i j : ℕ} (h : nextElement m pbuf index limit i = some j) : i < j ∧ j < limit := by
  unfold nextElement at h
  split_ifs at h with hid hlimit
  cases h
  omega

theorem inside_rtwGetIeLoop_iff (P : ℤ → Prop) (fuel i : ℕ) (hi : i < limit) (hfuel : limit ≤ i + fuel) :
    Inside P (rtwGetIeLoop pbuf index limit fuel i) m ↔
      ∀ k, Visits (nextElement m pbuf index limit) i k → P (pbuf + k) ∧ P (pbuf + k + 1) := by
  induction fuel generalizing i with
  | zero => omega
  | succ fuel ih =>
    rw [inside_rtwGetIeLoop_succ, Visits.forall_iff, ← and_assoc]
    refine and_congr_right fun _ => ?_
    cases hnext : nextElement m pbuf index limit i with
    | none =>
      refine ⟨fun _ j hj => absurd hj (Option.some_ne_none j).symm, fun _ hid hlimit => ?_⟩
      unfold nextElement at hnext
      rw [if_neg hid, if_neg (by omega)] at hnext
      exact absurd hnext (Option.some_ne_none _)
    | some j =>
      obtain ⟨hlt, hj⟩ := nextElement_lt hnext
      unfold nextElement at hnext
      split_ifs at hnext with hid hlimit
      cases hnext
      rw [ih _ hj (by omega)]
      exact ⟨fun h k hk => Option.some.inj hk ▸ h hid (by omega), fun h _ _ => h _ rfl⟩

theorem rtwGetIeLoop_val_iff {p : ℤ} {n : ℕ} (fuel i : ℕ) (hi : i < limit) (hfuel : limit ≤ i + fuel) :
    ((rtwGetIeLoop pbuf index limit fuel i).run m).val = some (p, n) ↔
      ∃ k, Visits (nextElement m pbuf index limit) i k ∧ m (pbuf + k) = index ∧ p = pbuf + k ∧
        n = (m (pbuf + k + 1)).toNat := by
  induction fuel generalizing i with
  | zero => omega
  | succ fuel ih =>
    rw [rtwGetIeLoop_succ, Visits.exists_iff]
    by_cases hid : m (pbuf + i) = index
    · have hstop : nextElement m pbuf index limit i = none := if_pos hid
      rw [if_pos hid, hstop]
      constructor
      · intro h
        cases h
        exact .inl ⟨hid, rfl, rfl⟩
      · rintro (⟨-, rfl, rfl⟩ | ⟨j, hj, -⟩)
        · rfl
        · exact absurd hj (Option.some_ne_none j).symm
    · rw [if_neg hid]
      by_cases hlimit : limit ≤ i + ((m (pbuf + i + 1)).toNat + 2)
      · have hstop : nextElement m pbuf index limit i = none := by rw [nextElement, if_neg hid, if_pos hlimit]
        rw [if_pos (by omega), hstop]
        constructor
        · intro h
          cases h
        · rintro (⟨hid', -⟩ | ⟨j, hj, -⟩)
          · exact absurd hid' hid
          · exact absurd hj (Option.some_ne_none j).symm
      · have hnext : nextElement m pbuf index limit i = some (i + ((m (pbuf + i + 1)).toNat + 2)) := by
          rw [nextElement, if_neg hid, if_neg hlimit]
        rw [if_neg (by omega), ih _ (by omega) (by omega), hnext]
        constructor
        · intro h
          exact .inr ⟨_, rfl, h⟩
        · rintro (⟨hid', -⟩ | ⟨j, hj, h⟩)
          · exact absurd hid' hid
          · cases hj
            exact h

end

namespace Ioctl

open IoctlRegion

/-! ## The name of the network -/

/-- What the element at `k` needs while the name of the network is searched: its first two bytes, and the name itself
is not cut off and not too long. -/
def SsidFits (b : Mem) (limit k : ℕ) : Prop :=
  k + 2 ≤ limit ∧ (b (bcnOffset + k) = _SSID_IE_ → (b (bcnOffset + k + 1)).toNat ≠ 0 →
    (b (bcnOffset + k + 1)).toNat ≤ NDIS_802_11_LENGTH_SSID ∧ k + 2 + (b (bcnOffset + k + 1)).toNat ≤ limit)

/-- What `rtw_set_hidden_ssid` needs of a request of `length` bytes. -/
def HiddenSsidFits (b : Mem) (length : ℕ) : Prop :=
  13 ≤ length ∧ (b 12 = 0xea → 14 ≤ length ∧ (14 < length →
    ∀ k, Visits (nextElement b bcnOffset _SSID_IE_ (length - 14)) 0 k → SsidFits b (length - 14) k))

section
variable {t : Regions IoctlRegion} {length : ℕ}

theorem inside_bcnLength (len : ℕ) : Inside (Fits (size length)) (bcnLength len) t ↔ 14 ≤ len := by
  unfold bcnLength
  rw [inside_bind, inside_length]
  simp only [inside_pure, and_true]
  omega

theorem inside_copySsid (k n : ℕ) (hn : n ≠ 0) : Inside (Fits (size length)) (copySsid (bcnOffset + k) n) t ↔
    n ≤ NDIS_802_11_LENGTH_SSID ∧ 14 + k + 2 + n ≤ length := by
  have hparam : Within (size length) .param (bcnOffset + k + 2) n ↔ 14 + k + 2 + n ≤ length := by
    refine (within_param (show (0 : ℤ) ≤ 14 + k + 2 by omega)).trans ?_
    show n = 0 ∨ (14 : ℤ) + k + 2 + n ≤ length ↔ _
    omega
  have hend : Within (size length) .ssid (min (n : ℤ) NDIS_802_11_LENGTH_SSID) 1 := by
    have hle : min (n : ℤ) NDIS_802_11_LENGTH_SSID ≤ 32 := min_le_right _ _
    refine .inr ⟨le_min (Nat.cast_nonneg n) (Nat.cast_nonneg _), ?_⟩
    show min (n : ℤ) NDIS_802_11_LENGTH_SSID + (1 : ℕ) ≤ (33 : ℕ)
    omega
  have hlocal : Within (size length) .ssid 0 n ↔ n ≤ 33 := within_front
  have hcur : Within (size length) .curSsid 0 n ↔ n ≤ 32 := within_front
  have hext : Within (size length) .extSsid 0 n ↔ n ≤ 32 := within_front
  unfold copySsid
  simp only [inside_bind, inside_memcpy, inside_store, List.length_singleton, hparam, hlocal, hcur, hext, hend, true_and]
  show _ ↔ n ≤ 32 ∧ _
  omega

theorem inside_getSsid (b : Mem) (h : 14 ≤ length) :
    Inside (fun x => Fits (size length) (.byte .param x)) (rtwGetIe bcnOffset _SSID_IE_ ((length : ℤ) - 12 - 2)) b ↔
      (14 < length → ∀ k, Visits (nextElement b bcnOffset _SSID_IE_ (length - 14)) 0 k → k + 2 ≤ length - 14) := by
  have hlimit : (length : ℤ) - 12 - 2 = (length - 14 : ℕ) := by omega
  rw [hlimit, rtwGetIe, inside_ite]
  by_cases hpos : 14 < length
  · have hloop : ((length - 14 : ℕ) : ℤ).toNat = length - 14 := Int.toNat_natCast _
    rw [if_neg (by omega), hloop, inside_rtwGetIeLoop_iff _ _ _ (by omega) (by omega)]
    simp only [hpos, true_imp_iff]
    refine forall_congr' fun k => imp_congr_right fun _ => ?_
    show (0 ≤ (14 : ℤ) + k ∧ (14 : ℤ) + k < length) ∧ 0 ≤ (14 : ℤ) + k + 1 ∧ (14 : ℤ) + k + 1 < length ↔ _
    omega
  · rw [if_pos (by omega)]
    simp [hpos]

theorem getSsid_val (b : Mem) {p : ℤ} {n : ℕ} (h : 14 ≤ length) :
    ((rtwGetIe bcnOffset _SSID_IE_ ((length : ℤ) - 12 - 2)).run b).val = some (p, n) ↔ 14 < length ∧
      ∃ k, Visits (nextElement b bcnOffset _SSID_IE_ (length - 14)) 0 k ∧ b (bcnOffset + k) = _SSID_IE_ ∧
        p = bcnOffset + k ∧ n = (b (bcnOffset + k + 1)).toNat := by
  have hlimit : (length : ℤ) - 12 - 2 = (length - 14 : ℕ) := by omega
  rw [hlimit, rtwGetIe, ite_run]
  by_cases hpos : 14 < length
  · have hloop : ((length - 14 : ℕ) : ℤ).toNat = length - 14 := Int.toNat_natCast _
    rw [if_neg (by omega), hloop, rtwGetIeLoop_val_iff _ _ (by omega) (by omega)]
    simp only [hpos, true_and]
  · rw [if_pos (by omega)]
    simp [hpos]

@[simp] theorem bcnLength_val (len : ℕ) : ((bcnLength len).run t).val = (len : ℤ) - 12 - 2 := rfl
@[simp] theorem bcnLength_st (len : ℕ) : ((bcnLength len).run t).st = t := rfl

theorem inside_keepSsid (found : Option (ℤ × ℕ)) (s : Regions IoctlRegion)
    (h : ∀ p n, found = some (p, n) → ∃ k : ℕ, p = bcnOffset + k) : Inside (Fits (size length))
      (match found with
        | none => pure (0 : ℤ)
        | some (p, ssidLen) => if ssidLen = 0 then pure 0 else do
          copySsid p ssidLen
          pure 0) s ↔
      ∀ (k n : ℕ), found = some (bcnOffset + k, n) → n ≠ 0 → n ≤ NDIS_802_11_LENGTH_SSID ∧ 14 + k + 2 + n ≤ length := by
  cases found with
  | none => simp
  | some o =>
    obtain ⟨p, n⟩ := o
    obtain ⟨k, rfl⟩ := h p n rfl
    dsimp only
    by_cases hn : n = 0
    · rw [if_pos hn]
      refine ⟨fun _ k' n' heq hne => ?_, fun _ => inside_pure _ _ _⟩
      have hsame : n = n' := congrArg Prod.snd (Option.some.inj heq)
      exact absurd (hsame.symm.trans hn) hne
    · rw [if_neg hn, inside_bind, inside_copySsid k n hn]
      constructor
      · rintro ⟨hfits, -⟩ k' n' heq -
        have hplace : bcnOffset + (k : ℤ) = bcnOffset + k' := congrArg Prod.fst (Option.some.inj heq)
        obtain rfl : k = k' := Int.ofNat.inj (add_left_cancel hplace)
        obtain rfl : n = n' := congrArg Prod.snd (Option.some.inj heq)
        exact hfits
      · intro hall
        exact ⟨hall k n rfl hn, inside_pure _ _ _⟩

theorem inside_rtwSetHiddenSsid (env : IoctlEnv) (length : ℕ) (s : Regions IoctlRegion) :
    Inside (Fits (size length)) (rtwSetHiddenSsid env length) s ↔ (checkAp env = true → HiddenSsidFits (s .param) length) := by
  cases hap : checkAp env with
  | false =>
    rw [rtwSetHiddenSsid, hap]
    simp
  | true =>
    have hone : Within (size length) .param 12 1 ↔ 13 ≤ length := (within_param (by decide)).trans (by omega)
    have htwo : Within (size length) .param 13 1 ↔ 14 ≤ length := (within_param (by decide)).trans (by omega)
    have hget : (region IoctlRegion.param).get s = s .param := rfl
    rw [rtwSetHiddenSsid, hap]
    unfold HiddenSsidFits
    simp only [inside_ite, inside_bind, inside_peek_region, inside_pure, inside_bcnLength, hone, htwo, hget, peek_val, peek_st,
      inside_zoom, zoom_val, zoom_st, true_imp_iff, bcnLength_val, bcnLength_st]
    refine and_congr_right fun _ => ?_
    by_cases hid : s .param 12 = 0xea
    · simp only [hid, true_imp_iff, ne_eq, not_true_eq_false, if_false]
      rw [← and_assoc, and_self]
      refine and_congr_right fun h14 => ?_
      have hval := fun p n => @getSsid_val length (s .param) p n h14
      have hfound : ∀ p n, ((rtwGetIe bcnOffset _SSID_IE_ ((length : ℤ) - 12 - 2)).run (s .param)).val = some (p, n) →
          ∃ k : ℕ, p = bcnOffset + k := by
        intro p n heq
        obtain ⟨-, k, -, -, hp, -⟩ := (hval p n).mp heq
        exact ⟨k, hp⟩
      refine (and_congr (inside_getSsid (s .param) h14) (inside_keepSsid _ _ hfound)).trans ?_
      simp only [hval]
      constructor
      · rintro ⟨hsearch, hcopy⟩ hpos k hk
        refine ⟨hsearch hpos k hk, fun hzero hne => ?_⟩
        obtain ⟨hle, hend⟩ := hcopy k _ ⟨hpos, k, hk, hzero, rfl, rfl⟩ hne
        exact ⟨hle, by omega⟩
      · intro h
        refine ⟨fun hpos k hk => (h hpos k hk).1, ?_⟩
        rintro k n ⟨hpos, k', hk', hzero, hplace, rfl⟩ hne
        obtain rfl : k = k' := Int.ofNat.inj (add_left_cancel hplace)
        obtain ⟨hle, hend⟩ := (h hpos k hk').2 hzero hne
        exact ⟨hle, by omega⟩
    · simp [hid]

/-! ## The elements of the beacon -/

theorem inside_rtwCheckBeaconData (env : IoctlEnv) (h : 14 ≤ length) :
    Inside (Fits (size length)) (rtwCheckBeaconData env bcnOffset ((length : ℤ) - 12 - 2)) t := by
  have hies : Within (size length) .ies 0 MAX_IE_SZ := within_front.mpr (le_refl _)
  unfold rtwCheckBeaconData
  simp only [inside_ite, inside_bind, inside_store, inside_memcpy, inside_pure, List.length_replicate, hies, and_true,
    true_and]
  split_ifs with hap hlong
  have hlen : (((length : ℤ) - 12 - 2) % 2 ^ 32).toNat = length - 14 := by
    have hsmall : ¬(768 : ℤ) < (length : ℤ) - 12 - 2 := hlong
    omega
  rw [hlen]
  constructor
  · refine (within_param (show (0 : ℤ) ≤ 14 by decide)).mpr ?_
    show length - 14 = 0 ∨ (14 : ℤ) + (length - 14 : ℕ) ≤ length
    omega
  · refine within_front.mpr ?_
    have hsmall : ¬(768 : ℤ) < (length : ℤ) - 12 - 2 := hlong
    show length - 14 ≤ 768
    omega

theorem inside_rtwSetBeacon (env : IoctlEnv) :
    Inside (Fits (size length)) (rtwSetBeacon env length) t ↔ (checkAp env = true → 14 ≤ length) := by
  have hreserved : Within (size length) .param 12 2 ↔ 14 ≤ length := (within_param (by decide)).trans (by omega)
  have hmax : Within (size length) .maxNumSta 0 2 := within_front.mpr (show 2 ≤ 4 by decide)
  unfold rtwSetBeacon
  simp only [inside_ite, inside_bind, inside_memcpy, inside_pure, inside_bcnLength, bcnLength_val, hreserved, hmax, and_true]
  cases checkAp env with
  | false => simp
  | true =>
    refine ⟨fun h _ => h.1, fun h => ?_⟩
    exact ⟨h rfl, h rfl, inside_rtwCheckBeaconData env (h rfl)⟩

theorem inside_rtwSetWpsIe (env : IoctlEnv) :
    Inside (Fits (size length)) (rtwSetWpsIe env length) t ↔ (checkAp env = true → 14 ≤ length) := by
  unfold rtwSetWpsIe
  simp only [inside_ite, inside_bind, inside_memcpy, inside_pure, inside_bcnLength, and_true]
  cases checkAp env with
  | false => simp
  | true =>
    refine ⟨fun h _ => h.1, fun h => ⟨h rfl, ?_⟩⟩
    have h14 := h rfl
    rw [bcnLength_val]
    split_ifs
    constructor
    · refine (within_param (show (0 : ℤ) ≤ 14 by decide)).mpr ?_
      show ((length : ℤ) - 12 - 2).toNat = 0 ∨ (14 : ℤ) + ((length : ℤ) - 12 - 2).toNat ≤ length
      omega
    · exact within_front.mpr (le_refl _)

/-! ## Stations -/

/-- What `rtw_add_sta` needs of a request of `length` bytes: the bytes that it reads, and an entry of the table of the
dynamic mechanism for the identifier. -/
def AddStaFits (env : IoctlEnv) (b : Mem) (length : ℕ) : Prop :=
  (env.debug = true → 14 ≤ length) ∧ (checkLinkedAp env = true → 10 ≤ length ∧ (paramAddr b ≠ bcAddr →
    ∀ psta, rtwGetStainfo env.padapter.stapriv (some (paramAddr b)) = some psta →
      36 ≤ length ∧ (BitVec.ofNat 32 (leAt b 16 4) &&& WLAN_STA_HT ≠ 0 → 62 ≤ length) ∧
        odmIndex (leAt b 12 2) < ODM_ASSOCIATE_ENTRY_NUM))

/-- What a handler that looks for a station needs, where `f` is what it needs with the station. -/
def StationFits (env : IoctlEnv) (b : Mem) (length : ℕ) (f : StaId → Prop) : Prop :=
  (env.debug = true ∨ checkLinkedAp env = true → 10 ≤ length) ∧ (checkLinkedAp env = true → paramAddr b ≠ bcAddr →
    ∀ psta, rtwGetStainfo env.padapter.stapriv (some (paramAddr b)) = some psta → f psta)

theorem inside_dbg (env : IoctlEnv) (m : Io Unit) :
    Inside (Fits (size length)) (dbg env m) t ↔ (env.debug = true → Inside (Fits (size length)) m t) := by
  unfold dbg
  rw [inside_ite]
  split_ifs with h <;> simp [h]

theorem dbg_st (env : IoctlEnv) (m : Io Unit) (h : (m.run t).st = t) : ((dbg env m).run t).st = t := by
  unfold dbg
  rw [ite_run]
  split
  · exact h
  · rfl

theorem inside_withStation (env : IoctlEnv) (missing : ℤ) (f : StaId → Io Unit) :
    Inside (Fits (size length)) (withStation env missing f) t ↔
      StationFits env (t .param) length fun psta => Inside (Fits (size length)) (f psta) t := by
  have hst : ((dbg env (loadStaAddr >>= fun _ => pure ())).run t).st = t := dbg_st env _ rfl
  unfold withStation StationFits
  simp only [inside_bind, inside_ite, inside_dbg, inside_loadStaAddr, inside_pure, hst, loadStaAddr_st, loadStaAddr_val,
    and_true]
  cases checkLinkedAp env with
  | false => simp
  | true =>
    by_cases haddr : paramAddr (t .param) = bcAddr
    · simp only [haddr, Bool.not_true, Bool.false_eq_true, if_false, or_true, true_imp_iff, if_true, and_true, ne_eq,
        not_true_eq_false, false_imp_iff]
      tauto
    · cases hsta : rtwGetStainfo env.padapter.stapriv (some (paramAddr (t .param))) with
      | none =>
        simp [haddr]
        tauto
      | some psta =>
        simp [haddr]
        tauto

theorem inside_copyHtCap (psta : StaId) (flags : ℕ) (u : Regions IoctlRegion) :
    Inside (Fits (size length)) (copyHtCap psta flags) u ↔ (BitVec.ofNat 32 flags &&& WLAN_STA_HT ≠ 0 → 62 ≤ length) := by
  have hcap : Within (size length) .param 36 sizeofHtCap ↔ 62 ≤ length := by
    refine (within_param (by decide)).trans ?_
    show 26 = 0 ∨ (36 : ℤ) + (26 : ℕ) ≤ length ↔ _
    omega
  have hht : Within (size length) (.htCap psta) 0 sizeofHtCap := within_front.mpr (le_refl _)
  unfold copyHtCap
  rw [inside_ite]
  split
  · rename_i hflag
    rw [inside_memcpy, hcap]
    exact ⟨fun h _ => h.1, fun h => ⟨h hflag, hht⟩⟩
  · rename_i hflag
    exact ⟨fun _ h => absurd h hflag, fun _ => inside_pure _ _ _⟩

theorem inside_touchEntry (k : ℕ) (u : Regions IoctlRegion) :
    Inside (Fits (size length)) (touch [Touch.byte odmStaInfo k] : Io Unit) u ↔ k < ODM_ASSOCIATE_ENTRY_NUM := by
  rw [inside_touch, List.forall_mem_singleton]
  exact ⟨fun h => Int.ofNat_lt.mp h.2, fun h => ⟨Nat.cast_nonneg _, Int.ofNat_lt.mpr h⟩⟩

theorem inside_rtwAddSta (env : IoctlEnv) :
    Inside (Fits (size length)) (rtwAddSta env) t ↔ AddStaFits env (t .param) length := by
  have hst : ((dbg env (loadLe .param 12 2 >>= fun _ => loadStaAddr >>= fun _ => pure ())).run t).st = t :=
    dbg_st env _ rfl
  have haid : Within (size length) .param 12 2 ↔ 14 ≤ length := (within_param (by decide)).trans (by omega)
  have hflags : Within (size length) .param 16 4 ↔ 20 ≤ length := (within_param (by decide)).trans (by omega)
  have hrates : Within (size length) .param 20 16 ↔ 36 ≤ length := (within_param (by decide)).trans (by omega)
  have hsta : ∀ psta, Within (size length) (.bssrateset psta) 0 16 := fun _ => within_front.mpr (le_refl 16)
  have hdebug : 14 ≤ length ∧ 10 ≤ length ↔ 14 ≤ length := by omega
  unfold rtwAddSta AddStaFits
  simp only [inside_bind, inside_ite, inside_dbg, inside_loadStaAddr, inside_loadLe, inside_pure, hst, loadStaAddr_st,
    loadStaAddr_val, and_true, haid, hdebug]
  refine and_congr_right fun _ => ?_
  cases checkLinkedAp env with
  | false => simp
  | true =>
    by_cases haddr : paramAddr (t .param) = bcAddr
    · simp [haddr]
    · cases rtwGetStainfo env.padapter.stapriv (some (paramAddr (t .param))) with
      | none => simp [haddr]
      | some psta =>
        simp only [haddr, Bool.not_true, Bool.false_eq_true, if_false, true_imp_iff, ne_eq, not_false_eq_true,
          Option.some.injEq, forall_eq', inside_bind, inside_loadLe, inside_memcpy, inside_copyHtCap, inside_touchEntry,
          inside_pure, loadLe_val, loadLe_st, hflags, haid, hrates, hsta, and_true]
        constructor
        · rintro ⟨h10, -, -, h36, h⟩
          exact ⟨h10, h36, h⟩
        · rintro ⟨h10, h36, h⟩
          exact ⟨h10, by omega, by omega, h36, h⟩

/-- What `rtw_ioctl_get_sta_data` needs with the station. -/
def StaDataFits (env : IoctlEnv) (length : ℕ) (psta : StaId) : Prop :=
  122 ≤ length ∧ (env.padapter.stapriv.staInfo psta).bssrateset.length ≤ 16

theorem stationFits_congr {env : IoctlEnv} {b : Mem} {f g : StaId → Prop} (h : ∀ psta, f psta ↔ g psta) :
    StationFits env b length f ↔ StationFits env b length g := by
  rw [funext fun psta => propext (h psta)]

theorem inside_rtwDelSta (env : IoctlEnv) :
    Inside (Fits (size length)) (rtwDelSta env) t ↔ StationFits env (t .param) length fun _ => True := by
  refine (inside_withStation env _ _).trans (stationFits_congr fun _ => ?_)
  simp

theorem inside_rtwIoctlGetStaData (env : IoctlEnv) : Inside (Fits (size length)) (rtwIoctlGetStaData env) t ↔
    StationFits env (t .param) length (StaDataFits env length) := by
  refine (inside_withStation env _ _).trans (stationFits_congr fun psta => ?_)
  unfold StaDataFits
  generalize env.padapter.stapriv.staInfo psta = sta
  have hhead : Within (size length) .param 10 (2 + 2 + 4) ↔ 18 ≤ length := (within_param (by decide)).trans (by omega)
  have hset : Within (size length) .param 18 4 ↔ 22 ≤ length := (within_param (by decide)).trans (by omega)
  have hlen : Within (size length) .param 38 4 ↔ 42 ≤ length := (within_param (by decide)).trans (by omega)
  have hstats : Within (size length) .param 74 48 ↔ 122 ≤ length := (within_param (by decide)).trans (by omega)
  have hcap : Within (size length) .param 42 sizeofHtCap ↔ 68 ≤ length := by
    refine (within_param (by decide)).trans ?_
    show 26 = 0 ∨ (42 : ℤ) + (26 : ℕ) ≤ length ↔ _
    omega
  have hrates : Within (size length) .param 22 sta.bssrateset.length ↔
      sta.bssrateset.length = 0 ∨ 22 + sta.bssrateset.length ≤ length := (within_param (by decide)).trans (by omega)
  have hsta : Within (size length) (.bssrateset psta) 0 sta.bssrateset.length ↔ sta.bssrateset.length ≤ 16 := within_front
  have hht : Within (size length) (.htCap psta) 0 sizeofHtCap := within_front.mpr (le_refl _)
  have hcount : Within (size length) (.staStats psta) 0 48 := within_front.mpr (le_refl _)
  simp only [inside_bind, inside_store, inside_memcpy, List.length_append, length_leBytes, hhead, hset, hlen, hstats, hcap,
    hrates, hsta, hht, hcount, true_and]
  omega

/-- What `rtw_get_sta_wpaie` needs with the station: the room for the element that is kept of it. -/
def StaWpaieFits (s : Regions IoctlRegion) (length : ℕ) (psta : StaId) : Prop :=
  s (.staWpaIe psta) 0 = 0x30 ∨ s (.staWpaIe psta) 0 = 0xdd → 16 + min ((s (.staWpaIe psta) 1).toNat + 2) 32 ≤ length

theorem inside_rtwGetStaWpaie (env : IoctlEnv) : Inside (Fits (size length)) (rtwGetStaWpaie env) t ↔
    StationFits env (t .param) length (StaWpaieFits t length) := by
  refine (inside_withStation env _ _).trans (stationFits_congr fun psta => ?_)
  have hid : Within (size length) (.staWpaIe psta) 0 1 := within_front.mpr (show 1 ≤ 32 by decide)
  have hcount : Within (size length) (.staWpaIe psta) 1 1 := .inr ⟨by decide, show (1 : ℤ) + (1 : ℕ) ≤ (32 : ℕ) by decide⟩
  have hlen : Within (size length) .param 12 4 ↔ 16 ≤ length := (within_param (by decide)).trans (by omega)
  have hcopy : ∀ k : ℕ, Within (size length) .param 16 (min (k + 2) 32) ↔ 16 + min (k + 2) 32 ≤ length := by
    intro k
    exact (within_param (by decide)).trans (by omega)
  have hie : ∀ k : ℕ, Within (size length) (.staWpaIe psta) 0 (min (k + 2) 32) := fun k =>
    within_front.mpr (Nat.min_le_right _ _)
  unfold StaWpaieFits
  rw [inside_bind, inside_peek_region, inside_ite]
  show _ ∧ (if t (.staWpaIe psta) 0 = 0x30 ∨ t (.staWpaIe psta) 0 = 0xdd then _ else _) ↔ _
  split
  · rename_i h
    simp only [inside_bind, inside_loadLe, inside_store, inside_memcpy, length_leBytes, hid, hcount, hlen, hcopy, hie, h,
      true_and, true_imp_iff]
    rw [loadLe_val, peek_st, leAt_one]
    omega
  · rename_i h
    exact ⟨fun _ h' => absurd h' h, fun _ => ⟨hid, inside_pure _ _ _⟩⟩

theorem inside_rtwIoctlAclSta (env : IoctlEnv) :
    Inside (Fits (size length)) (rtwIoctlAclSta env) t ↔ (checkAp env = true → 10 ≤ length) := by
  unfold rtwIoctlAclSta
  rw [inside_ite, inside_bind, inside_loadStaAddr]
  cases checkAp env <;> simp

theorem inside_rtwIoctlSetMacaddrAcl (env : IoctlEnv) :
    Inside (Fits (size length)) (rtwIoctlSetMacaddrAcl env) t ↔ (checkAp env = true → 16 ≤ length) := by
  have hpolicy : Within (size length) .param 12 4 ↔ 16 ≤ length := (within_param (by decide)).trans (by omega)
  unfold rtwIoctlSetMacaddrAcl
  rw [inside_ite, inside_bind, inside_loadLe, hpolicy]
  cases checkAp env <;> simp

end

/-! ## The dispatch -/

/-- What the handler of a command needs of a request of `length` bytes. -/
def HostapdFits (env : IoctlEnv) (s : Regions IoctlRegion) (cmd length : ℕ) : Prop :=
  if cmd = RTL871X_HOSTAPD_FLUSH then True
  else if cmd = RTL871X_HOSTAPD_ADD_STA then AddStaFits env (s .param) length
  else if cmd = RTL871X_HOSTAPD_REMOVE_STA then StationFits env (s .param) length fun _ => True
  else if cmd = RTL871X_HOSTAPD_SET_BEACON then checkAp env = true → 14 ≤ length
  else if cmd = RTL871X_SET_ENCRYPTION then CryptFits env (IeeeParamCrypt.ofMem (s .param)) length
  else if cmd = RTL871X_HOSTAPD_GET_WPAIE_STA then StationFits env (s .param) length (StaWpaieFits s length)
  else if cmd = RTL871X_HOSTAPD_SET_WPS_BEACON ∨ cmd = RTL871X_HOSTAPD_SET_WPS_PROBE_RESP ∨
    cmd = RTL871X_HOSTAPD_SET_WPS_ASSOC_RESP then checkAp env = true → 14 ≤ length
  else if cmd = RTL871X_HOSTAPD_SET_HIDDEN_SSID then checkAp env = true → HiddenSsidFits (s .param) length
  else if cmd = RTL871X_HOSTAPD_GET_INFO_STA then StationFits env (s .param) length (StaDataFits env length)
  else if cmd = RTL871X_HOSTAPD_SET_MACADDR_ACL then checkAp env = true → 16 ≤ length
  else if cmd = RTL871X_HOSTAPD_ACL_ADD_STA ∨ cmd = RTL871X_HOSTAPD_ACL_REMOVE_STA then checkAp env = true → 10 ≤ length
  else True

theorem inside_hostapdRequest (env : IoctlEnv) (cmd length : ℕ) (s : Regions IoctlRegion) :
    Inside (Fits (size length)) (hostapdRequest env cmd length) s ↔ HostapdFits env s cmd length := by
  unfold hostapdRequest HostapdFits
  simp only [inside_ite, inside_pure, inside_rtwAddSta, inside_rtwDelSta, inside_rtwSetBeacon, inside_rtwSetEncryption,
    inside_rtwGetStaWpaie, inside_rtwSetWpsIe, inside_rtwSetHiddenSsid, inside_rtwIoctlGetStaData,
    inside_rtwIoctlSetMacaddrAcl, inside_rtwIoctlAclSta]

theorem within_request (length : ℕ) : Within (size length) .param 0 length := within_front.mpr (le_refl length)

theorem inside_rtwHostapdIoctl (env : IoctlEnv) (length : ℕ) (s : Regions IoctlRegion) :
    Inside (Fits (size length)) (rtwHostapdIoctl env length) s ↔
      (env.hwInitCompleted = true → env.pointer = true → env.kmalloc = true → env.copied = true →
        4 ≤ length ∧ HostapdFits env s (leAt (s .param) 0 4) length) := by
  unfold rtwHostapdIoctl
  simp only [inside_ite, inside_bind, inside_loadCmd, inside_hostapdRequest, inside_load, inside_pure, loadCmd_st,
    within_request, ite_self, and_true]
  have hcmd : (loadCmd.run s).val = leAt (s .param) 0 4 := rfl
  rw [hcmd]
  cases env.hwInitCompleted <;> cases env.pointer <;> cases env.kmalloc <;> cases env.copied <;> simp

end Ioctl

end Rtl8723au
