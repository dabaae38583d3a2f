import Rtl8723au.Ap.BeaconSearch

/-! The ciphers that `rtw_check_beacon_data` takes from the RSN and the WPA element, and what it reads of the latter in its
search loop. -/
namespace Rtl8723au
namespace BeaconData
open AccessM Regions Tlv Security Ieee80211 Mem
set_option autoImplicit false

/-! ## The parser behind a header -/

section
variable {suites : Suites} {m : Mem} {pos left : ℤ} {out : Ciphers}

theorem parsePairwise_group : ((suites.parsePairwise pos left out).run m).val.2.groupCipher = out.groupCipher := by
  rw [Suites.parsePairwise_val]
  split_ifs <;> rfl

theorem parseKeyMgmt_st : ((suites.parseKeyMgmt pos left out).run m).st = m := by
  rw [Suites.parseKeyMgmt, ite_run]
  split <;> rfl

theorem parsePairwise_st : ((suites.parsePairwise pos left out).run m).st = m := by
  rw [Suites.parsePairwise, ite_run]
  split
  · rw [bind_st, read_st, bind_st, read_st, ite_run]
    split
    · rfl
    · rw [bind_st, Suites.pairwiseLoop_st]
      exact parseKeyMgmt_st
  · rw [ite_run]
    split
    · rfl
    · exact parseKeyMgmt_st

theorem parseGroup_st : ((suites.parseGroup pos left out).run m).st = m := by
  rw [Suites.parseGroup, ite_run]
  split
  · exact parsePairwise_st
  · rw [ite_run]
    split
    · rfl
    · exact parsePairwise_st

theorem rtwParseWpa2Ie_st (n : ℤ) : ((rtwParseWpa2Ie n out).run m).st = m := by
  rw [rtwParseWpa2Ie, ite_run]
  split
  · rfl
  · rw [bind_st, read_st, ite_run]
    split
    · rfl
    · rw [bind_st, read_st, ite_run]
      split
      · rfl
      · exact parseGroup_st

theorem rtwParseWpaIe_st (n : ℤ) : ((rtwParseWpaIe n out).run m).st = m := by
  rw [rtwParseWpaIe, ite_run]
  split
  · rfl
  · rw [bind_st, read_st, ite_run]
    split
    · rfl
    · rw [bind_st, read_st, ite_run]
      split
      · rfl
      · rw [bind_st, readVec_st, ite_run]
        split
        · rfl
        · exact parseGroup_st

theorem parseGroup_nothing (h : left ≤ 0) : ((suites.parseGroup pos left ⟨0, 0, none⟩).run m).val = (true, ⟨0, 0, none⟩) := by
  rw [Suites.parseGroup_val, if_neg (by omega), if_neg (by omega), Suites.parsePairwise_val, if_neg (by omega),
    if_neg (by omega)]
  rfl

theorem tells_parseGroup (k : ℕ) : Tells suites (bytesAt m pos k)
    (groupCipher (told ((suites.parseGroup pos k ⟨0, 0, none⟩).run m).val))
    (pairwiseCipher (told ((suites.parseGroup pos k ⟨0, 0, none⟩).run m).val)) := by
  have haccepts := @Suites.parseGroup_accepts suites m pos ⟨0, 0, none⟩ k
  refine ⟨fun g ps more hlist => ?_, fun g hg => ?_, fun hnothing => ?_⟩
  · have hok := haccepts.mpr (.inr (.inr ⟨g, ps, more, hlist⟩))
    obtain ⟨hk, -, hgroup, -⟩ := suiteList_iff.mp hlist
    rw [told, if_pos hok]
    refine ⟨?_, ?_⟩
    · show ((suites.parseGroup pos k ⟨0, 0, none⟩).run m).val.2.groupCipher = _
      rw [Suites.parseGroup_val, if_pos (by omega), parsePairwise_group, hgroup]
    · show ((suites.parseGroup pos k ⟨0, 0, none⟩).run m).val.2.pairwiseCipher = _
      rw [(Suites.parseGroup_listed k hlist).1]
      exact BitVec.zero_or
  · have hfour : k = 4 := by
      have hlen := congrArg List.length hg
      rwa [bytesAt_length, Vector.length_toList] at hlen
    subst hfour
    have hsel := (bytesAt_eq_selector g).mp hg
    have hval : ((suites.parseGroup pos (4 : ℕ) ⟨0, 0, none⟩).run m).val = (true, ⟨suites.cipher g, 0, none⟩) := by
      rw [Suites.parseGroup_val, if_pos (by norm_num), Suites.parsePairwise_val, if_neg (by norm_num), if_neg (by norm_num),
        hsel]
      rfl
    rw [hval]
    exact ⟨rfl, rfl⟩
  · rcases hnothing with hnil | hnot
    · have hzero : k = 0 := by
        have hlen := congrArg List.length hnil
        rwa [bytesAt_length] at hlen
      subst hzero
      rw [parseGroup_nothing (by norm_num)]
      exact ⟨rfl, rfl⟩
    · rw [told, if_neg (mt haccepts.mp hnot)]
      exact ⟨rfl, rfl⟩

theorem parseGroup_toNat (left : ℤ) : ((suites.parseGroup pos left ⟨0, 0, none⟩).run m).val =
    ((suites.parseGroup pos left.toNat ⟨0, 0, none⟩).run m).val := by
  rcases lt_or_ge left 0 with hneg | hpos
  · rw [parseGroup_nothing hneg.le, parseGroup_nothing (by omega)]
  · rw [Int.toNat_of_nonneg hpos]

end

/-! ## The elements -/

section
variable {m : Mem} {p : ℤ} {n : ℕ}

theorem lengthByte_body (hn : n = (m (p + 1)).toNat) : m (p + 1) = lengthByte (n + 2 : ℕ) := by
  have hlt := (m (p + 1)).toNat_lt
  have hmod : ((((n + 2 : ℕ) : ℤ) - 2) % 256).toNat = n := by omega
  rw [lengthByte, hmod, hn, UInt8.ofNat_toNat]

theorem bytesAt_behind (q : ℤ) (k : ℕ) : bytesAt ((behind p).get m) q k = bytesAt m (p + q) k := by
  show (List.range k).map (fun j : ℕ => m (p + (q + (j : ℤ)))) = (List.range k).map fun j : ℕ => m (p + q + (j : ℤ))
  simp only [add_assoc]

theorem behind_st (f : M (Bool × Ciphers)) (hf : (f.run ((behind p).get m)).st = (behind p).get m) :
    ((zoom (behind p) f).run m).st = m := by
  rw [zoom_st, hf]
  funext x
  show m (p + (x - p)) = m x
  rw [add_sub_cancel]

theorem bytesAt_drop (q : ℤ) (n k : ℕ) : (bytesAt m q n).drop k = bytesAt m (q + k) (n - k) := by
  rcases le_total k n with hle | hle
  · obtain ⟨j, rfl⟩ := Nat.exists_eq_add_of_le hle
    rw [bytesAt_add, List.drop_left' (bytesAt_length _), Nat.add_sub_cancel_left]
  · rw [List.drop_eq_nil_of_le (by rw [bytesAt_length]; exact hle), Nat.sub_eq_zero_of_le hle]
    rfl

/-- What is told of an element, by the bytes behind its header. -/
def CiphersOf (suites : Suites) (rest : List UInt8) (c : Option Ciphers) : Prop :=
  Tells suites rest (groupCipher c) (pairwiseCipher c)

theorem ciphersOf_none (suites : Suites) : CiphersOf suites [] none :=
  ⟨fun g ps more hlist => by
    have hlen := congrArg List.length hlist.bytes
    rw [List.length_nil, List.length_append, Vector.length_toList] at hlen
    omega,
    fun g hg => by
      have hlen := congrArg List.length hg
      rw [List.length_nil, Vector.length_toList] at hlen
      omega,
    fun _ => ⟨rfl, rfl⟩⟩

theorem parseWpa2_val (hid : m p = _RSN_IE_2_) (hn : n = (m (p + 1)).toNat) :
    ((zoom (behind p) (rtwParseWpa2Ie (n + 2 : ℕ) ⟨0, 0, none⟩)).run m).val =
      ((rsnSuites.parseGroup 4 (n - 2 : ℕ) ⟨0, 0, none⟩).run ((behind p).get m)).val := by
  have hzero : (behind p).get m 0 = _WPA2_IE_ID_ := by
    show m (p + 0) = _
    rw [add_zero, hid]
    rfl
  have hone : (behind p).get m 1 = lengthByte (n + 2 : ℕ) := lengthByte_body hn
  have hleft : (((n + 2 : ℕ) : ℤ) - 4).toNat = n - 2 := by omega
  rw [zoom_val, rtwParseWpa2Ie_val, if_neg, parseGroup_toNat, hleft]
  rw [hzero, hone]
  rintro (hneg | hne | hne)
  · omega
  · exact hne rfl
  · exact hne rfl

theorem ciphersOf_rsn (hid : m p = _RSN_IE_2_) (hn : n = (m (p + 1)).toNat) :
    CiphersOf rsnSuites ((bytesAt m (p + 2) n).drop 2)
      (told ((zoom (behind p) (rtwParseWpa2Ie (n + 2 : ℕ) ⟨0, 0, none⟩)).run m).val) := by
  have htells := @tells_parseGroup rsnSuites ((behind p).get m) 4 (n - 2)
  rw [bytesAt_behind] at htells
  rw [parseWpa2_val hid hn, bytesAt_drop]
  have hplace : p + 2 + (2 : ℕ) = p + 4 := by
    push_cast
    ring
  rw [hplace]
  exact htells

theorem parseWpa_val (hid : m p = _VENDOR_SPECIFIC_IE_) (houi : bytesAt m (p + 2) 4 = OUI1) (hn : n = (m (p + 1)).toNat) :
    ((zoom (behind p) (rtwParseWpaIe (n + 2 : ℕ) ⟨0, 0, none⟩)).run m).val =
      ((wpaSuites.parseGroup 8 (n - 6 : ℕ) ⟨0, 0, none⟩).run ((behind p).get m)).val := by
  have hzero : (behind p).get m 0 = _WPA_IE_ID_ := by
    show m (p + 0) = _
    rw [add_zero, hid]
    rfl
  have hone : (behind p).get m 1 = lengthByte (n + 2 : ℕ) := lengthByte_body hn
  have htype : selectorAt ((behind p).get m) 2 = RTW_WPA_OUI_TYPE := by
    rw [eq_comm, ← bytesAt_eq_selector, bytesAt_behind, houi]
    rfl
  have hleft : (((n + 2 : ℕ) : ℤ) - 8).toNat = n - 6 := by omega
  rw [zoom_val, rtwParseWpaIe_val, if_neg, parseGroup_toNat, hleft]
  rw [hzero, hone, htype]
  rintro (hneg | hne | hne | hne)
  · omega
  · exact hne rfl
  · exact hne rfl
  · exact hne rfl

theorem ciphersOf_wpa (hid : m p = _VENDOR_SPECIFIC_IE_) (houi : bytesAt m (p + 2) 4 = OUI1) (hn : n = (m (p + 1)).toNat) :
    CiphersOf wpaSuites ((bytesAt m (p + 2) n).drop 6)
      (told ((zoom (behind p) (rtwParseWpaIe (n + 2 : ℕ) ⟨0, 0, none⟩)).run m).val) := by
  have htells := @tells_parseGroup wpaSuites ((behind p).get m) 8 (n - 6)
  rw [bytesAt_behind] at htells
  rw [parseWpa_val hid houi hn, bytesAt_drop]
  have hplace : p + 2 + (6 : ℕ) = p + 8 := by
    push_cast
    ring
  rw [hplace]
  exact htells

theorem told_short (hid : m p = _VENDOR_SPECIFIC_IE_) (houi : bytesAt m (p + 2) 4 = OUI1) (hn : n = (m (p + 1)).toNat)
    (hshort : n ≤ 6) : groupCipher (told ((zoom (behind p) (rtwParseWpaIe (n + 2 : ℕ) ⟨0, 0, none⟩)).run m).val) = 0 ∧
      pairwiseCipher (told ((zoom (behind p) (rtwParseWpaIe (n + 2 : ℕ) ⟨0, 0, none⟩)).run m).val) = 0 := by
  rw [parseWpa_val hid houi hn, parseGroup_nothing (by omega)]
  exact ⟨rfl, rfl⟩

/-! ## What the parser reads in the loop -/

/-- Behind the last byte of a WPA element with `n` bytes that the parser reads. -/
def parsedEnd (m : Mem) (p : ℤ) (n : ℕ) : ℕ :=
  if n < 10 then 6
  else if n < 12 then 12
  else if countAt m (p + 12) = 0 ∨ n - 12 < 4 * countAt m (p + 12) then 14
  else 14 + 4 * countAt m (p + 12)

variable {len : ℕ}

theorem inside_pairwiseLoop_iff (suites : Suites) (count : ℕ) (pos : ℤ) (pairwise : BitVec 32) (hpos : 0 ≤ p + pos)
    (hend : p + pos ≤ len) {m' : Mem} :
    Inside (fun x => 0 ≤ p + x ∧ p + x < (len : ℤ)) (suites.pairwiseLoop count pos pairwise) m' ↔ p + pos + 4 * count ≤ len := by
  induction count generalizing pos pairwise with
  | zero =>
    refine iff_of_true (inside_pure _ _ _) ?_
    push_cast
    omega
  | succ count ih =>
    rw [Suites.pairwiseLoop, inside_bind, inside_readVec, readVec_st]
    push_cast
    constructor
    · rintro ⟨hread, hrest⟩
      have hlast := hread 3 (by norm_num)
      push_cast at hlast
      have hmore := (ih (pos + 4) _ (by omega) (by omega)).mp hrest
      omega
    · intro hall
      exact ⟨fun j hj => by omega, (ih (pos + 4) _ (by omega) (by omega)).mpr (by omega)⟩

theorem inside_parseGroup_iff (suites : Suites) (hp : 0 ≤ p) (hoi : p + 6 ≤ len) :
    Inside (fun x => 0 ≤ p + x ∧ p + x < (len : ℤ)) (suites.parseGroup 8 ((n + 2 : ℕ) - 8) ⟨0, 0, none⟩) ((behind p).get m) ↔
      p + parsedEnd m p n ≤ len := by
  have hcount : countAt ((behind p).get m) (8 + 4) = countAt m (p + 12) := by
    show (m (p + 12)).toNat + 256 * (m (p + (12 + 1))).toNat = (m (p + 12)).toNat + 256 * (m (p + 12 + 1)).toNat
    rw [add_assoc]
  have hmgmt : ∀ (pos left : ℤ) (g c : BitVec 32) (m' : Mem),
      Inside (fun x => 0 ≤ p + x ∧ p + x < (len : ℤ)) (suites.parseKeyMgmt pos left ⟨g, c, none⟩) m' := by
    intro pos left g c m'
    rw [Suites.parseKeyMgmt, if_neg fun h => absurd h.1 Bool.false_ne_true]
    exact inside_pure _ _ _
  rw [Suites.parseGroup, inside_ite, parsedEnd]
  by_cases hten : n < 10
  · rw [if_pos hten, if_neg (by push_cast; omega), inside_ite]
    refine iff_of_true ?_ (by exact_mod_cast hoi)
    split
    · exact inside_pure _ _ _
    · rw [Suites.parsePairwise, if_neg (by push_cast; omega), if_neg (by push_cast; omega)]
      exact hmgmt _ _ _ _ _
  · rw [if_neg hten, if_pos (by push_cast; omega), inside_bind, inside_readVec, readVec_st, Suites.parsePairwise, inside_ite]
    by_cases htwelve : n < 12
    · rw [if_pos htwelve, if_neg (by push_cast; omega), inside_ite]
      have hrest : ∀ g : Selector, if ((n + 2 : ℕ) : ℤ) - 8 - 4 = 1 then
          Inside (fun x => 0 ≤ p + x ∧ p + x < (len : ℤ)) (pure (false, (⟨suites.cipher g, 0, none⟩ : Ciphers)) : M (Bool × Ciphers))
            ((behind p).get m)
          else Inside (fun x => 0 ≤ p + x ∧ p + x < (len : ℤ))
            (suites.parseKeyMgmt (8 + 4) ((n + 2 : ℕ) - 8 - 4) ⟨suites.cipher g, 0, none⟩) ((behind p).get m) := by
        intro g
        split
        · exact inside_pure _ _ _
        · exact hmgmt _ _ _ _ _
      refine (and_iff_left (hrest _)).trans ⟨fun h => ?_, fun h j hj => ?_⟩
      · have hlast := h 3 (by norm_num)
        push_cast at hlast ⊢
        omega
      · push_cast at h
        omega
    · rw [if_neg htwelve, if_pos (by push_cast; omega), inside_bind, inside_read, inside_bind, inside_read]
      show (_ ∧ _ ∧ _ ∧ Inside _ (ite (countAt ((behind p).get m) (8 + 4) = 0 ∨
        ((n + 2 : ℕ) : ℤ) - 8 - 4 - 2 < countAt ((behind p).get m) (8 + 4) * 4) _ _ : M (Bool × Ciphers)) _) ↔ _
      rw [hcount, inside_ite]
      by_cases hbad : countAt m (p + 12) = 0 ∨ n - 12 < 4 * countAt m (p + 12)
      · rw [if_pos hbad, if_pos (by push_cast; omega)]
        constructor
        · rintro ⟨-, -, hlast, -⟩
          push_cast
          omega
        · intro h
          push_cast at h
          exact ⟨fun j hj => by omega, by omega, by omega, inside_pure _ _ _⟩
      · rw [if_neg hbad, if_neg (by push_cast; omega), inside_bind]
        constructor
        · rintro ⟨-, -, hlast, hloop, -⟩
          have hend : p + (8 + 4 + 2) + 4 * (countAt ((behind p).get m) (8 + 4) : ℤ) ≤ len :=
            (inside_pairwiseLoop_iff suites _ _ _ (by omega) (by omega)).mp hloop
          rw [hcount] at hend
          push_cast
          omega
        · intro h
          push_cast at h
          refine ⟨fun j hj => by omega, by omega, by omega, ?_, hmgmt _ _ _ _ _⟩
          refine (inside_pairwiseLoop_iff suites _ _ _ (by omega) (by omega)).mpr ?_
          show p + (8 + 4 + 2) + 4 * (countAt ((behind p).get m) (8 + 4) : ℤ) ≤ len
          rw [hcount]
          omega

/-- The parser reads before `len` exactly when what it comes to ends there. -/
theorem inside_parseWpa (hid : m p = _VENDOR_SPECIFIC_IE_) (houi : bytesAt m (p + 2) 4 = OUI1) (hn : n = (m (p + 1)).toNat)
    (hp : 0 ≤ p) (hoi : p + 6 ≤ len) :
    Inside (fun x => 0 ≤ x ∧ x < (len : ℤ)) (zoom (behind p) (rtwParseWpaIe (n + 2 : ℕ) ⟨0, 0, none⟩)) m ↔
      p + parsedEnd m p n ≤ len := by
  have hzero : (behind p).get m 0 = _WPA_IE_ID_ := by
    show m (p + 0) = _
    rw [add_zero, hid]
    rfl
  have hone : (behind p).get m 1 = lengthByte (n + 2 : ℕ) := lengthByte_body hn
  have htype : selectorAt ((behind p).get m) 2 = RTW_WPA_OUI_TYPE := by
    rw [eq_comm, ← bytesAt_eq_selector, bytesAt_behind, houi]
    rfl
  rw [inside_zoom]
  show Inside (fun x => 0 ≤ p + x ∧ p + x < (len : ℤ)) _ _ ↔ _
  rw [rtwParseWpaIe, if_neg (by omega), inside_bind, inside_read, read_val, read_st, hzero, if_neg (not_not.mpr rfl),
    inside_bind, inside_read, read_val, read_st, hone, if_neg (not_not.mpr rfl), inside_bind, inside_readVec,
    readVec_selectorAt, readVec_st, htype, if_neg (not_not.mpr rfl), inside_parseGroup_iff wpaSuites hp hoi]
  constructor
  · exact fun h => h.2.2.2
  · exact fun h => ⟨by omega, by omega, fun j hj => by omega, h⟩

end

end BeaconData

end Rtl8723au
