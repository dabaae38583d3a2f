import Rtl8723au.Ieee80211.SecurityIeExact
import Rtl8723au.Ioctl.HostapdBounds

/-! The requests of `wpa_supplicant`, and of both which are handled inside the copy of the request and inside the arrays
that it is copied to. -/
namespace Rtl8723au
open Mem Security AccessM Regions
set_option autoImplicit false

namespace Ioctl

open IoctlRegion

/-! ## The element of a station -/

/-- Where the search for an element of the protected setup goes on. -/
def nextWps (b : Mem) (ielen cnt : ℕ) : Option ℕ :=
  if b cnt = 0xdd ∧ (Vector.ofFn fun j : Fin 4 => b (cnt + 2 + (j : ℕ))) = wpsOui then none
  else if (cnt + ((b (cnt + 1)).toNat + 2)) % 2 ^ 16 < ielen then some ((cnt + ((b (cnt + 1)).toNat + 2)) % 2 ^ 16)
  else none

/-- What the element at `cnt` needs in the search: a vendor's four bytes behind its length, and all of it when it is kept. -/
def WpsFits (b : Mem) (ielen cnt : ℕ) : Prop :=
  if b cnt = 0xdd then cnt + 6 ≤ ielen ∧
    ((Vector.ofFn fun j : Fin 4 => b (cnt + 2 + (j : ℕ))) = wpsOui →
      cnt + ((b (cnt + 1)).toNat + 2) ≤ ielen)
  else cnt + 2 ≤ ielen

section
variable {length ielen cnt : ℕ} {s : Regions IoctlRegion}

theorem inside_wpsPass (hcnt : cnt < ielen) :
    Inside (Fits (size length)) (wpsPass ielen cnt) s ↔ WpsFits (s (.buf ielen)) ielen cnt := by
  have hblock : ∀ x k : ℕ, Within (size length) (.buf ielen) x k ↔ k = 0 ∨ x + k ≤ ielen := by
    intro x k
    unfold Within
    show k = 0 ∨ (0 : ℤ) ≤ x ∧ (x : ℤ) + k ≤ (ielen : ℕ) ↔ _
    omega
  have hid : Within (size length) (.buf ielen) cnt 1 := (hblock cnt 1).mpr (by omega)
  have hlen : Within (size length) (.buf ielen) (cnt + 1) 1 ↔ cnt + 2 ≤ ielen := (hblock (cnt + 1) 1).trans (by omega)
  have houi : Within (size length) (.buf ielen) (cnt + 2) 4 ↔ cnt + 6 ≤ ielen := (hblock (cnt + 2) 4).trans (by omega)
  have hnext : Inside (Fits (size length)) (wpsNext ielen cnt) s ↔ cnt + 2 ≤ ielen := by
    rw [wpsNext, inside_bind, inside_loadLe, hlen]
    simp
  unfold wpsPass WpsFits
  rw [inside_bind, inside_peek_region, inside_ite]
  show _ ∧ (if s (.buf ielen) cnt = 0xdd then _ else Inside _ _ s) ↔ _
  rw [hnext]
  split
  · rw [inside_bind, inside_loadVec, houi, inside_ite, loadVec_val]
    show _ ∧ _ ∧ (if (Vector.ofFn fun j : Fin 4 => s (.buf ielen) (cnt + 2 + (j : ℕ))) = wpsOui then
      Inside _ _ s else Inside _ _ s) ↔ _
    rw [hnext]
    split
    · rename_i hwps
      have hcopy : Within (size length) (.buf ielen) cnt
          (min ((s (.buf ielen) (cnt + 1)).toNat + 2) (4 * MAX_WPA_IE_LEN)) ↔
            cnt + ((s (.buf ielen) (cnt + 1)).toNat + 2) ≤ ielen := by
        have hbyte := (s (.buf ielen) (cnt + 1)).toNat_lt
        have hmin : min ((s (.buf ielen) (cnt + 1)).toNat + 2) (4 * MAX_WPA_IE_LEN) =
            (s (.buf ielen) (cnt + 1)).toNat + 2 := Nat.min_eq_left (by show _ ≤ 4 * 256; omega)
        rw [hmin, hblock]
        omega
      have hkeep : Within (size length) .securityWpsIe 0
          (min ((s (.buf ielen) (cnt + 1)).toNat + 2) (4 * MAX_WPA_IE_LEN)) := by
        have hbyte := (s (.buf ielen) (cnt + 1)).toNat_lt
        refine within_front.mpr ?_
        show min _ _ ≤ 512
        omega
      rw [inside_bind, inside_loadLe, loadLe_val, leAt_one, inside_bind, inside_memcpy, loadLe_st, hcopy]
      simp only [hid, hlen, hkeep, hwps, inside_pure, true_imp_iff, and_true, true_and]
      omega
    · rename_i hwps
      simp only [hid, hwps, false_imp_iff, true_and, and_true]
      omega
  · simp only [hid, true_and]

theorem wpsNext_val : ((wpsNext ielen cnt).run s).val =
    if (cnt + ((s (.buf ielen) (cnt + 1)).toNat + 2)) % 2 ^ 16 < ielen then
      some ((cnt + ((s (.buf ielen) (cnt + 1)).toNat + 2)) % 2 ^ 16) else none := by
  show (if (cnt + (leAt _ _ 1 + 2)) % 2 ^ 16 < ielen then some _ else none) = _
  rw [leAt_one]
  rfl

theorem wpsPass_val : ((wpsPass ielen cnt).run s).val = nextWps (s (.buf ielen)) ielen cnt := by
  unfold nextWps
  rw [← wpsNext_val]
  show (((if s (.buf ielen) cnt = 0xdd then _ else wpsNext ielen cnt : Io (Option ℕ))).run s).val = _
  by_cases hid : s (.buf ielen) cnt = 0xdd
  · rw [if_pos hid]
    show (((if (Vector.ofFn fun j : Fin 4 => s (.buf ielen) (cnt + 2 + (j : ℕ))) = wpsOui then _
      else wpsNext ielen cnt : Io (Option ℕ))).run s).val = _
    by_cases hwps : (Vector.ofFn fun j : Fin 4 => s (.buf ielen) (cnt + 2 + (j : ℕ))) = wpsOui
    · rw [if_pos hwps, if_pos ⟨hid, hwps⟩]
      rfl
    · rw [if_neg hwps, if_neg fun h => hwps h.2]
  · rw [if_neg hid, if_neg fun h => hid h.1]

theorem wpsPass_st {j : ℕ} (h : nextWps (s (.buf ielen)) ielen cnt = some j) : ((wpsPass ielen cnt).run s).st = s := by
  have hfound : ¬(s (.buf ielen) cnt = 0xdd ∧
      (Vector.ofFn fun j : Fin 4 => s (.buf ielen) (cnt + 2 + (j : ℕ))) = wpsOui) := by
    intro hfound
    rw [nextWps, if_pos hfound] at h
    exact absurd h.symm (Option.some_ne_none j)
  show (((if s (.buf ielen) cnt = 0xdd then _ else wpsNext ielen cnt : Io (Option ℕ))).run s).st = _
  by_cases hid : s (.buf ielen) cnt = 0xdd
  · rw [if_pos hid]
    show (((if (Vector.ofFn fun j : Fin 4 => s (.buf ielen) (cnt + 2 + (j : ℕ))) = wpsOui then _
      else wpsNext ielen cnt : Io (Option ℕ))).run s).st = _
    rw [if_neg fun hwps => hfound ⟨hid, hwps⟩]
    rfl
  · rw [if_neg hid]
    rfl

end

/-! ## The parsers -/

section
variable {length ielen : ℕ} {s : Regions IoctlRegion} {m : Mem}

theorem inside_parseList {pos left : ℤ} {len : ℕ} (hpos : 0 ≤ pos) (hlen : pos + left ≤ len) (count : ℕ) :
    Inside (fun x => 0 ≤ x ∧ x < (len : ℤ)) (parseList pos left count) m := by
  unfold parseList
  rw [inside_ite]
  split
  · exact inside_pure _ _ _
  · rename_i hcount
    rw [inside_bind, inside_loop]
    refine ⟨fun i hi => ?_, inside_pure _ _ _⟩
    rw [inside_bind, inside_readVec]
    refine ⟨fun j hj => ?_, inside_pure _ _ _⟩
    omega

theorem parseList_st (pos left : ℤ) (count : ℕ) : ((parseList pos left count).run m).st = m := by
  unfold parseList
  rw [ite_run]
  split
  · rfl
  · refine loop_invariant _ (fun _ t => t = m) m count rfl ?_
    rintro i - t rfl
    rfl

theorem inside_parseSuites (pos len : ℕ) : Inside (fun x => 0 ≤ x ∧ x < (len : ℤ)) (parseSuites pos len) m := by
  unfold parseSuites
  simp only [inside_ite, inside_bind, inside_readVec, inside_read, inside_pure, readVec_st, read_val, read_st]
  split_ifs with hgroup hlist
  · exact ⟨fun j hj => by omega, by omega, by omega, inside_parseList (by omega) (by omega) _⟩
  · exact ⟨fun j hj => by omega, trivial⟩

theorem parseSuites_st (pos len : ℕ) : ((parseSuites pos len).run m).st = m := by
  unfold parseSuites
  dsimp only
  rw [ite_run]
  split
  · rw [bind_st, readVec_st, ite_run]
    split
    · exact parseList_st _ _ _
    · rfl
  · rfl

theorem inside_rtwParseWpaIe (hlen : RSN_HEADER_LEN ≤ ielen) (hvendor : m 0 = 0xdd → 6 ≤ ielen) :
    Inside (fun x => 0 ≤ x ∧ x < (ielen : ℤ)) (rtwParseWpaIe ielen) m := by
  have h4 : 4 ≤ ielen := hlen
  rw [rtwParseWpaIe, inside_bind, inside_read, inside_ite]
  refine ⟨by omega, ?_⟩
  split
  · exact inside_pure _ _ _
  · rename_i hid
    have h6 := hvendor (not_not.mp hid)
    rw [inside_bind, inside_read, inside_ite]
    refine ⟨by omega, ?_⟩
    split
    · exact inside_pure _ _ _
    · rw [inside_bind, inside_readVec, inside_ite]
      refine ⟨fun j hj => by omega, ?_⟩
      split
      · exact inside_pure _ _ _
      · exact inside_parseSuites 8 ielen

theorem rtwParseWpaIe_st : ((rtwParseWpaIe ielen).run m).st = m := by
  rw [rtwParseWpaIe, bind_st, ite_run]
  split
  · rfl
  · rw [bind_st, ite_run]
    split
    · rfl
    · rw [bind_st, ite_run]
      split
      · rfl
      · exact parseSuites_st 8 ielen

theorem inside_rtwParseWpa2Ie (hlen : RSN_HEADER_LEN ≤ ielen) :
    Inside (fun x => 0 ≤ x ∧ x < (ielen : ℤ)) (rtwParseWpa2Ie ielen) m := by
  have h4 : 4 ≤ ielen := hlen
  rw [rtwParseWpa2Ie, inside_bind, inside_read, inside_ite]
  refine ⟨by omega, ?_⟩
  split
  · exact inside_pure _ _ _
  · rw [inside_bind, inside_read, inside_ite]
    refine ⟨by omega, ?_⟩
    split
    · exact inside_pure _ _ _
    · exact inside_parseSuites 4 ielen

theorem rtwParseWpa2Ie_st : ((rtwParseWpa2Ie ielen).run m).st = m := by
  rw [rtwParseWpa2Ie, bind_st, ite_run]
  split
  · rfl
  · rw [bind_st, ite_run]
    split
    · rfl
    · exact parseSuites_st 4 ielen

/-! ## The element that is kept -/

theorem inside_dumpIe : Inside (Fits (size length)) (dumpIe ielen) s ↔ 8 ∣ ielen := by
  have hline : ∀ i : ℕ, Within (size length) (.buf ielen) (8 * i) 8 ↔ 8 * i + 8 ≤ ielen := by
    intro i
    unfold Within
    show 8 = 0 ∨ (0 : ℤ) ≤ 8 * i ∧ (8 : ℤ) * i + (8 : ℕ) ≤ (ielen : ℕ) ↔ _
    omega
  unfold dumpIe
  rw [inside_loop]
  simp only [inside_bind, inside_load, inside_pure, and_true, hline]
  constructor
  · intro h
    by_contra hdvd
    have hlast := h (ielen / 8) (by omega)
    omega
  · rintro ⟨lines, rfl⟩ i hi
    omega

theorem dumpIe_st : ((dumpIe ielen).run s).st = s := by
  refine loop_invariant _ (fun _ t => t = s) s _ rfl ?_
  rintro i - t rfl
  rfl

theorem WpsFits.vendor {b : Mem} (h : WpsFits b ielen 0) (hid : b 0 = 0xdd) : 6 ≤ ielen := by
  unfold WpsFits at h
  rw [Nat.cast_zero, if_pos hid] at h
  omega

/-- The buffer holds the element. -/
def Holds (b : Mem) (ielen : ℕ) (t : Regions IoctlRegion) : Prop := ∀ x : ℤ, 0 ≤ x → x < ielen → t (.buf ielen) x = b x

/-- All elements that the search comes to are good. -/
def WalkFits (b : Mem) (ielen : ℕ) : Prop := ∀ k, Visits (nextWps b ielen) 0 k → WpsFits b ielen k

theorem nextWps_lt {b : Mem} {i j : ℕ} (hsmall : ielen ≤ MAX_WPA_IE_LEN) (hi : i < ielen) (h : nextWps b ielen i = some j) :
    i < j ∧ j < ielen := by
  have hbyte := (b (i + 1)).toNat_lt
  have hle : ielen ≤ 256 := hsmall
  unfold nextWps at h
  split_ifs at h with hwps hlt
  cases h
  omega

theorem nextWps_bound {b : Mem} (i j : ℕ) (h : nextWps b ielen i = some j) : j < ielen := by
  unfold nextWps at h
  split_ifs at h with hwps hlt
  cases h
  exact hlt

section
variable {b : Mem}

theorem Holds.oui_eq (h : Holds b ielen s) {cnt : ℕ} (hend : cnt + 6 ≤ ielen) :
    (Vector.ofFn fun j : Fin 4 => s (.buf ielen) (cnt + 2 + (j : ℕ))) = Vector.ofFn fun j : Fin 4 => b (cnt + 2 + (j : ℕ)) := by
  congr 1
  funext j
  exact h _ (by omega) (by omega)

theorem Holds.wpsFits_iff (h : Holds b ielen s) {cnt : ℕ} (hcnt : cnt < ielen) :
    WpsFits (s (.buf ielen)) ielen cnt ↔ WpsFits b ielen cnt := by
  have hid : s (.buf ielen) cnt = b cnt := h _ (Nat.cast_nonneg cnt) (by omega)
  unfold WpsFits
  rw [hid]
  split
  · refine and_congr_right fun hend => ?_
    rw [h.oui_eq hend, h (cnt + 1) (by omega) (by omega)]
  · exact Iff.rfl

theorem Holds.nextWps_eq (h : Holds b ielen s) {cnt : ℕ} (hcnt : cnt < ielen) (hfits : WpsFits (s (.buf ielen)) ielen cnt) :
    nextWps b ielen cnt = nextWps (s (.buf ielen)) ielen cnt := by
  have hid : s (.buf ielen) cnt = b cnt := h _ (Nat.cast_nonneg cnt) (by omega)
  have hend : cnt + 2 ≤ ielen := by
    unfold WpsFits at hfits
    split at hfits
    · omega
    · exact hfits
  unfold WpsFits at hfits
  unfold nextWps
  rw [hid, h (cnt + 1) (by omega) (by omega)]
  rw [hid] at hfits
  split at hfits
  · rw [h.oui_eq hfits.1]
  · rename_i hne
    simp only [hne, false_and, if_false]

theorem Holds.inside_search (h : Holds b ielen s) (hpos : 0 < ielen) (hsmall : ielen ≤ MAX_WPA_IE_LEN) :
    Inside (Fits (size length)) (iterate (wpsPass ielen) ielen 0) s ↔ WalkFits b ielen := by
  have hloop : Inside (Fits (size length)) (iterate (wpsPass ielen) ielen 0) s ↔
      ∀ k, Visits (nextWps (s (.buf ielen)) ielen) 0 k → Inside (Fits (size length)) (wpsPass ielen k) s :=
    inside_iterate _ (fun i _ => wpsPass_val) (fun i j hij => wpsPass_st hij) (fun i hi j hij => nextWps_lt hsmall hi hij)
      ielen 0 hpos (Nat.le_of_eq (Nat.zero_add _).symm)
  have hpasses : (∀ k, Visits (nextWps (s (.buf ielen)) ielen) 0 k → Inside (Fits (size length)) (wpsPass ielen k) s) ↔
      ∀ k, Visits (nextWps (s (.buf ielen)) ielen) 0 k → WpsFits (s (.buf ielen)) ielen k :=
    forall₂_congr fun k hk => inside_wpsPass (hk.lt ielen hpos nextWps_bound)
  refine hloop.trans (hpasses.trans ?_)
  exact Visits.forall_congr ielen hpos nextWps_bound (fun j hj => h.wpsFits_iff hj) fun j hj hfits => h.nextWps_eq hj hfits

end

theorem inside_keepSupplicantIe (hsmall : ielen ≤ MAX_WPA_IE_LEN) (parsed : Bool) :
    Inside (Fits (size length)) (keepSupplicantIe ielen parsed) s := by
  unfold keepSupplicantIe
  rw [inside_ite]
  split
  · rw [inside_memcpy]
    exact ⟨within_front.mpr (le_refl ielen), within_front.mpr hsmall⟩
  · exact inside_pure _ _ _

theorem Holds.keep {b : Mem} (h : Holds b ielen s) (parsed : Bool) : Holds b ielen ((keepSupplicantIe ielen parsed).run s).st := by
  unfold keepSupplicantIe
  rw [ite_run]
  split
  · rw [memcpy_st]
    intro x hx hlt
    rw [Function.update_of_ne fun hne => IoctlRegion.noConfusion hne]
    exact h x hx hlt
  · exact h

theorem holds_memcpy (s : Regions IoctlRegion) : Holds (fun x => s .param (48 + x)) ielen
    ((memcpy (.buf ielen) 0 .param keyOffset ielen).run s).st := by
  intro x hx hlt
  obtain ⟨k, rfl⟩ := Int.eq_ofNat_of_zero_le hx
  have hk : k < ielen := by omega
  have hbyte := putBytes_inside (s (.buf ielen)) 0 ((List.range ielen).map fun k : ℕ => s .param (keyOffset + k)) k
    (by simpa using hk)
  rw [zero_add] at hbyte
  rw [memcpy_st, Function.update_self, hbyte]
  simp [hk]
  rfl

theorem zoom_region_st {α : Type} {r : IoctlRegion} {p : M α} (h : (p.run (s r)).st = s r) :
    ((zoom (region r) p).run s).st = s := by
  rw [zoom_st]
  show Function.update s r (p.run (s r)).st = s
  rw [h, Function.update_eq_self]

/-- What an element of `ielen` bytes needs that is copied to the buffer. -/
theorem inside_keepWpaIe (env : IoctlEnv) (hpos : 0 < ielen) (hsmall : ielen ≤ MAX_WPA_IE_LEN) :
    Inside (Fits (size length)) (keepWpaIe env keyOffset ielen) s ↔ 48 + ielen ≤ length ∧ (env.debug = true → 8 ∣ ielen) ∧
      (RSN_HEADER_LEN ≤ ielen → WalkFits (fun x => s .param (48 + x)) ielen) := by
  have hparam : Within (size length) .param keyOffset ielen ↔ 48 + ielen ≤ length := (within_key 0).trans (by omega)
  have hbuf : Within (size length) (.buf ielen) 0 ielen := within_front.mpr (le_refl ielen)
  have h := @holds_memcpy ielen s
  have hdump : ∀ t, ((dbg env (dumpIe ielen)).run t).st = t := fun t => dbg_st env _ dumpIe_st
  unfold keepWpaIe
  rw [inside_bind, inside_memcpy, inside_bind, inside_dbg, inside_dumpIe, hdump, hparam]
  generalize ((memcpy (.buf ielen) 0 .param keyOffset ielen).run s).st = t at h ⊢
  simp only [hbuf, and_true]
  refine and_congr_right fun _ => and_congr_right fun _ => ?_
  rw [inside_ite]
  by_cases hshort : ielen < RSN_HEADER_LEN
  · rw [if_pos hshort]
    exact ⟨fun _ hle => absurd hshort (Nat.not_lt_of_le hle), fun _ => inside_pure _ _ _⟩
  · rw [if_neg hshort]
    have hhead := Nat.le_of_not_lt hshort
    have hwpa : ((zoom (region (buf ielen)) (rtwParseWpaIe ielen)).run t).st = t := zoom_region_st rtwParseWpaIe_st
    have hwpa2 : ∀ t, ((zoom (region (buf ielen)) (rtwParseWpa2Ie ielen)).run t).st = t := fun t =>
      zoom_region_st rtwParseWpa2Ie_st
    have hparse2 : ∀ t, Inside (Fits (size length)) (zoom (region (buf ielen)) (rtwParseWpa2Ie ielen)) t := fun t => by
      rw [inside_zoom]
      exact inside_rtwParseWpa2Ie hhead
    rw [inside_bind, inside_bind, inside_bind, inside_bind, inside_bind, hwpa, hwpa2]
    have hend := (h.keep ((zoom (region (buf ielen)) (rtwParseWpaIe ielen)).run t).val).keep
    constructor
    · rintro ⟨-, -, -, -, hwalk, -⟩ -
      exact ((hend _).inside_search hpos hsmall).mp hwalk
    · intro hwalk
      have hwalk := hwalk hhead
      have hvendor : t (.buf ielen) 0 = 0xdd → 6 ≤ ielen := fun hid =>
        (hwalk 0 .start).vendor ((h 0 (le_refl 0) (by omega)).symm.trans hid)
      refine ⟨?_, inside_keepSupplicantIe hsmall _, hparse2 _, inside_keepSupplicantIe hsmall _, ?_, inside_pure _ _ _⟩
      · rw [inside_zoom]
        exact inside_rtwParseWpaIe hhead hvendor
      · exact ((hend _).inside_search hpos hsmall).mpr hwalk

/-- What `rtw_set_wpa_ie` needs of a request of `length` bytes for an element of `ielen` bytes, which begins at `b`. -/
def WpaIeFits (env : IoctlEnv) (b : Mem) (ielen length : ℕ) : Prop :=
  ielen ≤ MAX_WPA_IE_LEN → ielen ≠ 0 → env.buf = true →
    48 + ielen ≤ length ∧ (env.debug = true → 8 ∣ ielen) ∧ (RSN_HEADER_LEN ≤ ielen → WalkFits b ielen)

theorem inside_rtwSetWpaIe (env : IoctlEnv) : Inside (Fits (size length)) (rtwSetWpaIe env keyOffset ielen) s ↔
    WpaIeFits env (fun x => s .param (48 + x)) ielen length := by
  unfold rtwSetWpaIe WpaIeFits
  simp only [inside_ite, inside_pure]
  by_cases hsmall : ielen ≤ MAX_WPA_IE_LEN
  · rw [if_neg (Nat.not_lt_of_le hsmall)]
    by_cases hzero : ielen = 0
    · rw [if_pos hzero]
      exact ⟨fun _ _ hne => absurd hzero hne, fun _ => trivial⟩
    · rw [if_neg hzero]
      cases hbuf : env.buf with
      | false => simp
      | true =>
        rw [inside_keepWpaIe env (Nat.pos_of_ne_zero hzero) hsmall]
        simp [hsmall, hzero]
  · rw [if_pos (Nat.lt_of_not_le hsmall)]
    exact ⟨fun _ hle => absurd hle hsmall, fun _ => trivial⟩

end

/-! ## The dispatch -/

/-- What the handler of a command needs of a request of `length` bytes. -/
def WpaFits (env : IoctlEnv) (b : Mem) (cmd length : ℕ) : Prop :=
  if cmd = IEEE_CMD_SET_WPA_IE then WpaIeFits env (fun x => b (48 + x)) (leAt b 12 4 % 2 ^ 16) length
  else if cmd = IEEE_CMD_SET_ENCRYPTION then WpaCryptFits env (IeeeParamCrypt.ofMem b) length
  else True

theorem inside_wpaRequest (env : IoctlEnv) (cmd length : ℕ) (s : Regions IoctlRegion) (hlong : 64 ≤ length) :
    Inside (Fits (size length)) (wpaRequest env cmd length) s ↔ WpaFits env (s .param) cmd length := by
  have hname : Within (size length) .param 12 1 := (within_param (by decide)).mpr (by omega)
  have hone : Within (size length) .param 12 4 := (within_param (by decide)).mpr (by omega)
  have htwo : Within (size length) .param 16 4 := (within_param (by decide)).mpr (by omega)
  unfold wpaRequest WpaFits
  simp only [inside_ite, inside_bind, inside_loadLe, inside_pure, loadLe_val, loadLe_st, inside_rtwSetWpaIe,
    inside_wpaSetEncryption env s hlong, hname, hone, htwo, true_and, and_true, ite_self]
  by_cases hparam : cmd = IEEE_CMD_SET_WPA_PARAM
  · subst hparam
    simp [IEEE_CMD_SET_WPA_PARAM, IEEE_CMD_SET_WPA_IE, IEEE_CMD_SET_ENCRYPTION]
  · rw [if_neg hparam]

theorem inside_wpaSupplicantIoctl (env : IoctlEnv) (length : ℕ) (s : Regions IoctlRegion) :
    Inside (Fits (size length)) (wpaSupplicantIoctl env length) s ↔
      (SIZEOF_IEEE_PARAM ≤ length → env.pointer = true → env.kmalloc = true → env.copied = true →
        WpaFits env (s .param) (leAt (s .param) 0 4) length) := by
  unfold wpaSupplicantIoctl
  by_cases hlong : SIZEOF_IEEE_PARAM ≤ length
  · have hshort : ¬length < SIZEOF_IEEE_PARAM := Nat.not_lt_of_le hlong
    have hcmd : (loadCmd.run s).val = leAt (s .param) 0 4 := rfl
    have hhead : 4 ≤ length := Nat.le_trans (by decide) hlong
    simp only [inside_ite, inside_bind, inside_loadCmd, inside_wpaRequest env _ length _ hlong, inside_load, inside_pure,
      loadCmd_st, within_request, ite_self, and_true, hcmd, hhead, true_and, hshort, false_or, hlong, true_imp_iff]
    cases env.pointer <;> cases env.kmalloc <;> cases env.copied <;> simp
  · rw [if_pos (.inl (Nat.lt_of_not_le hlong))]
    exact ⟨fun _ hle => absurd hle hlong, fun _ => inside_pure _ _ _⟩

/-- What a private request of `length` bytes needs to be handled inside its copy and the arrays of the driver. -/
def RequestFits (env : IoctlEnv) (length : ℕ) (s : Regions IoctlRegion) : PrivateIoctl → Prop
  | .hostapd => env.hwInitCompleted = true → env.pointer = true → env.kmalloc = true → env.copied = true →
      4 ≤ length ∧ HostapdFits env s (leAt (s .param) 0 4) length
  | .wpaSupplicant => SIZEOF_IEEE_PARAM ≤ length → env.pointer = true → env.kmalloc = true → env.copied = true →
      WpaFits env (s .param) (leAt (s .param) 0 4) length

/-- Exactly the requests that fit are handled inside. -/
theorem rtwIoctl_inside (env : IoctlEnv) (length : ℕ) (k : PrivateIoctl) (s : Regions IoctlRegion) :
    Inside (Fits (size length)) (rtwIoctl env length k) s ↔ RequestFits env length s k := by
  cases k with
  | hostapd => exact inside_rtwHostapdIoctl env length s
  | wpaSupplicant => exact inside_wpaSupplicantIoctl env length s

/-- A request of 49 bytes that hides a network with a name of 33. -/
def hideLongSsid : Regions IoctlRegion
  | .param => fun x => if x = 0 then 20 else if x = 12 then 0xea else if x = 15 then 33 else if 16 ≤ x then 0x61 else 0
  | _ => fun _ => 0

theorem rtwIoctl_outside : ¬∀ (env : IoctlEnv) (length : ℕ) (k : PrivateIoctl) (s : Regions IoctlRegion), 1 ≤ length →
    Inside (Fits (size length)) (rtwIoctl env length k) s := by
  intro h
  have hhide := h { padapter := { fwState := WIFI_AP_STATE } } 49 .hostapd hideLongSsid (by decide)
  have hout : ¬∀ a ∈ ((rtwIoctl { padapter := { fwState := WIFI_AP_STATE } } 49 .hostapd).run hideLongSsid).log,
      Fits (size 49) a := by
    decide +kernel
  exact hout hhide

end Ioctl

end Rtl8723au
