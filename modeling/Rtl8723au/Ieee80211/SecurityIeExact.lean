import Rtl8723au.Ieee80211.ElementsAt
import Rtl8723au.Ieee80211.SecurityIe

/-! The parsers of the cipher elements accept the grammar and nothing else: what is left, the position and the count
always add up to the length of the element. -/
namespace Rtl8723au.Ieee80211
open Mem Security AccessM
set_option autoImplicit false

/-! ## The parts of a buffer -/

def selectorAt (m : Mem) (p : ℤ) : Selector := Vector.ofFn fun j => m (p + (j : ℕ))

def selectorsAt (m : Mem) : ℤ → ℕ → List Selector
  | _, 0 => []
  | p, count + 1 => selectorAt m p :: selectorsAt m (p + 4) count

def countAt (m : Mem) (p : ℤ) : ℕ := (m p).toNat + 256 * (m (p + 1)).toNat

section Parts
variable {m : Mem} {p : ℤ} {k : ℕ}

theorem readVec_selectorAt : ((readVec p 4).run m).val = selectorAt m p := rfl

theorem selectorAt_toList : (selectorAt m p).toList = bytesAt m p 4 := rfl

@[simp] theorem selectorsAt_length (count : ℕ) : (selectorsAt m p count).length = count := by
  induction count generalizing p with
  | zero => rfl
  | succ count ih => rw [selectorsAt, List.length_cons, ih]

theorem countAt_lt : countAt m p < 2 ^ 16 := by
  have hlo := (m p).toNat_lt
  have hhi := (m (p + 1)).toNat_lt
  unfold countAt
  omega

theorem bytesAt_eq_selector (s : Selector) : bytesAt m p 4 = s.toList ↔ s = selectorAt m p := by
  rw [← selectorAt_toList, Vector.toList_inj]
  exact eq_comm

theorem bytesAt_eq_le16 (c : ℕ) (hc : c < 2 ^ 16) : bytesAt m p 2 = le16 c ↔ c = countAt m p := by
  have hlo := (m p).toNat_lt
  have hhi := (m (p + 1)).toNat_lt
  rw [bytesAt_two, le16, List.cons.injEq, List.cons.injEq, ← UInt8.toNat_inj, ← UInt8.toNat_inj, UInt8.toNat_ofNat',
    UInt8.toNat_ofNat', countAt]
  constructor
  · rintro ⟨h, h', -⟩
    omega
  · intro h
    exact ⟨by omega, by omega, rfl⟩

@[simp] theorem length_flatMap_selectors (l : List Selector) : (l.flatMap Vector.toList).length = 4 * l.length := by
  induction l with
  | nil => rfl
  | cons s rest ih =>
    rw [List.flatMap_cons, List.length_append, ih, Vector.length_toList, List.length_cons]
    omega

theorem bytesAt_eq_selectors (l : List Selector) :
    bytesAt m p (4 * l.length) = l.flatMap Vector.toList ↔ l = selectorsAt m p l.length := by
  induction l generalizing p with
  | nil => exact ⟨fun _ => rfl, fun _ => rfl⟩
  | cons s rest ih =>
    rw [List.flatMap_cons, bytesAt_eq_append, length_flatMap_selectors, Vector.length_toList, bytesAt_eq_selector, ih,
      List.length_cons, selectorsAt, List.cons.injEq]
    exact ⟨fun h => h.2, fun h => ⟨by omega, h⟩⟩

theorem suiteList_iff {group : Selector} {pairwise : List Selector} {more : List UInt8} :
    SuiteList (bytesAt m p k) group pairwise more ↔
      k = 6 + 4 * countAt m (p + 4) + more.length ∧ countAt m (p + 4) ≠ 0 ∧ group = selectorAt m p ∧
        pairwise = selectorsAt m (p + 6) (countAt m (p + 4)) ∧
          bytesAt m (p + 6 + (4 * countAt m (p + 4) : ℕ)) more.length = more := by
  have hparts (hshort : pairwise.length < 2 ^ 16) :
      bytesAt m p k = group.toList ++ (le16 pairwise.length ++ (pairwise.flatMap Vector.toList ++ more)) ↔
        k = 6 + 4 * pairwise.length + more.length ∧ pairwise.length = countAt m (p + 4) ∧ group = selectorAt m p ∧
          pairwise = selectorsAt m (p + 6) pairwise.length ∧
            bytesAt m (p + 6 + (4 * pairwise.length : ℕ)) more.length = more := by
    rw [bytesAt_eq_append, bytesAt_eq_append, bytesAt_eq_append, List.length_append, List.length_append,
      length_flatMap_selectors, Vector.length_toList, bytesAt_eq_selector]
    show _ ∧ _ ∧ _ ∧ bytesAt m (p + 4) 2 = _ ∧ _ ∧ bytesAt m (p + 4 + 2) _ = _ ∧ bytesAt m (p + 4 + 2 + _) _ = _ ↔ _
    rw [bytesAt_eq_le16 _ hshort, add_assoc p 4 2, bytesAt_eq_selectors]
    constructor
    · rintro ⟨hk, hgroup, -, hcount, -, hsuites, hmore⟩
      exact ⟨by simp [le16] at hk; omega, hcount, hgroup, hsuites, hmore⟩
    · rintro ⟨hk, hcount, hgroup, hsuites, hmore⟩
      exact ⟨by simp [le16]; omega, hgroup, by simp [le16], hcount, by simp, hsuites, hmore⟩
  constructor
  · rintro ⟨hbytes, hsome, hshort⟩
    obtain ⟨hk, hcount, hgroup, hsuites, hmore⟩ := (hparts hshort).mp hbytes
    rw [← hcount]
    exact ⟨hk, fun h => hsome (List.length_eq_zero_iff.mp h), hgroup, hsuites, hmore⟩
  · rintro ⟨hk, hcount, hgroup, hsuites, hmore⟩
    have hlength : pairwise.length = countAt m (p + 4) := by
      rw [hsuites, selectorsAt_length]
    refine ⟨(hparts (hlength ▸ countAt_lt)).mpr ?_, ?_, hlength ▸ countAt_lt⟩
    · rw [hlength]
      exact ⟨hk, rfl, hgroup, hsuites, hmore⟩
    · intro hnil
      rw [hnil] at hlength
      exact hcount hlength.symm

theorem grammar_iff : Grammar (bytesAt m p k) ↔ k = 0 ∨ k = 4 ∨
    6 + 4 * countAt m (p + 4) ≤ k ∧ countAt m (p + 4) ≠ 0 := by
  have hnil : bytesAt m p k = [] ↔ k = 0 := by
    rw [← List.length_eq_zero_iff, bytesAt_length]
  rw [Grammar, hnil, bytesAt_length]
  refine or_congr_right (or_congr_right ⟨?_, ?_⟩)
  · rintro ⟨group, pairwise, more, h⟩
    obtain ⟨hk, hcount, -⟩ := suiteList_iff.mp h
    exact ⟨by omega, hcount⟩
  · rintro ⟨hk, hcount⟩
    refine ⟨selectorAt m p, selectorsAt m (p + 6) (countAt m (p + 4)),
      bytesAt m (p + 6 + (4 * countAt m (p + 4) : ℕ)) (k - 6 - 4 * countAt m (p + 4)), suiteList_iff.mpr ?_⟩
    rw [bytesAt_length]
    exact ⟨by omega, hcount, rfl, rfl, rfl⟩

end Parts

/-! ## The steps of a parser -/

/-- The ciphers once the selector behind the second count is compared. -/
def Ciphers.keyMgmt (suites : Suites) (m : Mem) (pos left : ℤ) (out : Ciphers) : Ciphers :=
  { out with is8021x := out.is8021x.map fun v => if 6 ≤ left ∧ selectorAt m (pos + 2) = suites.suite1x then 1 else v }

namespace Suites

variable {suites : Suites} {m : Mem} {pos left : ℤ} {n : ℕ} {out : Ciphers}

theorem pairwiseLoop_st (count : ℕ) (pairwise : BitVec 32) :
    ((suites.pairwiseLoop count pos pairwise).run m).st = m := by
  induction count generalizing pos pairwise with
  | zero => rfl
  | succ count ih => exact ih _

theorem pairwiseLoop_val (count : ℕ) (pairwise : BitVec 32) :
    ((suites.pairwiseLoop count pos pairwise).run m).val =
      pairwise ||| ((selectorsAt m pos count).map suites.cipher).foldr (· ||| ·) 0 := by
  induction count generalizing pos pairwise with
  | zero => exact BitVec.or_zero.symm
  | succ count ih =>
    rw [pairwiseLoop, bind_val, readVec_st, ih, readVec_val, BitVec.or_assoc]
    rfl

theorem inside_pairwiseLoop (count : ℕ) (pairwise : BitVec 32) (hpos : 0 ≤ pos) (hend : pos + 4 * count ≤ n) :
    Inside (fun x => 0 ≤ x ∧ x < (n : ℤ)) (suites.pairwiseLoop count pos pairwise) m := by
  induction count generalizing pos pairwise with
  | zero => exact inside_pure _ _ _
  | succ count ih =>
    rw [pairwiseLoop, inside_bind, inside_readVec, readVec_st]
    constructor
    · intro j hj
      omega
    · apply ih
      · omega
      · omega

theorem parseKeyMgmt_val : ((suites.parseKeyMgmt pos left out).run m).val = (true, out.keyMgmt suites m pos left) := by
  obtain ⟨group, pairwise, is8021x⟩ := out
  rw [parseKeyMgmt, ite_run, Ciphers.keyMgmt]
  cases is8021x with
  | none => rfl
  | some v =>
    by_cases hleft : 6 ≤ left
    · by_cases hs : selectorAt m (pos + 2) = suites.suite1x
      · rw [if_pos ⟨rfl, hleft⟩, bind_val, readVec_val]
        show (true, if selectorAt m (pos + 2) = suites.suite1x then _ else _) = _
        simp [hs, hleft]
      · rw [if_pos ⟨rfl, hleft⟩, bind_val, readVec_val]
        show (true, if selectorAt m (pos + 2) = suites.suite1x then _ else _) = _
        simp [hs]
    · rw [if_neg fun h => hleft h.2]
      simp [hleft]

theorem inside_parseKeyMgmt (hpos : 0 ≤ pos) (hend : pos + left = n) :
    Inside (fun x => 0 ≤ x ∧ x < (n : ℤ)) (suites.parseKeyMgmt pos left out) m := by
  rw [parseKeyMgmt, inside_ite]
  split_ifs with h
  · rw [inside_bind, inside_readVec]
    refine ⟨fun j hj => ?_, inside_pure _ _ _⟩
    obtain ⟨-, hleft⟩ := h
    omega
  · exact inside_pure _ _ _

theorem parsePairwise_accepts (hleft : 0 ≤ left) : ((suites.parsePairwise pos left out).run m).val.1 = true ↔
    left = 0 ∨ 2 + 4 * (countAt m pos : ℤ) ≤ left ∧ countAt m pos ≠ 0 := by
  have hcount : countAt m pos = (m pos).toNat + 256 * (m (pos + 1)).toNat := rfl
  rw [parsePairwise, ite_run]
  by_cases htwo : 2 ≤ left
  · rw [if_pos htwo]
    show ((ite (countAt m pos = 0 ∨ left - 2 < countAt m pos * 4) _ _ : M (Bool × Ciphers)).run m).val.1 = true ↔ _
    rw [ite_run]
    by_cases hbad : countAt m pos = 0 ∨ left - 2 < countAt m pos * 4
    · rw [if_pos hbad]
      refine ⟨fun h => absurd h Bool.false_ne_true, fun h => ?_⟩
      omega
    · rw [if_neg hbad, bind_val, parseKeyMgmt_val]
      refine ⟨fun _ => ?_, fun _ => rfl⟩
      omega
  · rw [if_neg htwo, ite_run]
    by_cases hone : left = 1
    · rw [if_pos hone]
      refine ⟨fun h => absurd h Bool.false_ne_true, fun h => ?_⟩
      omega
    · rw [if_neg hone, parseKeyMgmt_val]
      refine ⟨fun _ => ?_, fun _ => rfl⟩
      omega

theorem parsePairwise_listed (hroom : 2 + 4 * (countAt m pos : ℤ) ≤ left) (hsome : countAt m pos ≠ 0) :
    ((suites.parsePairwise pos left out).run m).val.2 =
      Ciphers.keyMgmt suites m (pos + 2 + 4 * countAt m pos) (left - 2 - 4 * countAt m pos)
        { out with pairwiseCipher := out.pairwiseCipher |||
            ((selectorsAt m (pos + 2) (countAt m pos)).map suites.cipher).foldr (· ||| ·) 0 } := by
  rw [parsePairwise, ite_run, if_pos (by omega)]
  show ((ite (countAt m pos = 0 ∨ left - 2 < countAt m pos * 4) _ _ : M (Bool × Ciphers)).run m).val.2 = _
  rw [ite_run, if_neg (by omega), bind_val, pairwiseLoop_st, parseKeyMgmt_val]
  show Ciphers.keyMgmt suites m (pos + 2 + 4 * countAt m pos) _ { out with pairwiseCipher :=
    ((suites.pairwiseLoop (countAt m pos) (pos + 2) out.pairwiseCipher).run m).val } = _
  rw [pairwiseLoop_val]
  rfl

theorem inside_parsePairwise (hpos : 0 ≤ pos) (hend : pos + left = n) :
    Inside (fun x => 0 ≤ x ∧ x < (n : ℤ)) (suites.parsePairwise pos left out) m := by
  rw [parsePairwise, inside_ite]
  split_ifs with htwo hone
  · rw [inside_bind, inside_read, inside_bind, inside_read]
    refine ⟨by omega, by omega, ?_⟩
    show Inside _ (ite (countAt m pos = 0 ∨ left - 2 < countAt m pos * 4) _ _ : M (Bool × Ciphers)) m
    rw [inside_ite]
    split_ifs with hbad
    · exact inside_pure _ _ _
    · rw [inside_bind, pairwiseLoop_st]
      constructor
      · apply inside_pairwiseLoop
        · omega
        · show pos + 2 + 4 * (countAt m pos : ℤ) ≤ n
          omega
      · apply inside_parseKeyMgmt
        · omega
        · show pos + 2 + 4 * (countAt m pos : ℤ) + (left - 2 - 4 * (countAt m pos : ℤ)) = n
          omega
  · exact inside_pure _ _ _
  · exact inside_parseKeyMgmt hpos hend

theorem parseGroup_accepts (k : ℕ) : ((suites.parseGroup pos k out).run m).val.1 = true ↔ Grammar (bytesAt m pos k) := by
  rw [grammar_iff, parseGroup, ite_run]
  by_cases hfour : (4 : ℤ) ≤ k
  · rw [if_pos hfour]
    show ((suites.parsePairwise (pos + 4) ((k : ℤ) - 4) _).run m).val.1 = true ↔ _
    rw [parsePairwise_accepts (by omega)]
    omega
  · rw [if_neg hfour, ite_run]
    by_cases hsome : (0 : ℤ) < k
    · rw [if_pos hsome]
      refine ⟨fun h => absurd h Bool.false_ne_true, fun h => ?_⟩
      omega
    · rw [if_neg hsome, parsePairwise_accepts (by omega)]
      omega

theorem parseGroup_listed (k : ℕ) {group : Selector} {pairwise : List Selector} {more : List UInt8}
    (h : SuiteList (bytesAt m pos k) group pairwise more) :
    ((suites.parseGroup pos k out).run m).val.2.pairwiseCipher =
        out.pairwiseCipher ||| (pairwise.map suites.cipher).foldr (· ||| ·) 0 ∧
      ((suites.parseGroup pos k out).run m).val.2.is8021x = out.is8021x.map fun v =>
        if 6 ≤ more.length ∧ (more.drop 2).take 4 = suites.suite1x.toList then 1 else v := by
  obtain ⟨hk, hcount, hgroup, hpairwise, hmore⟩ := suiteList_iff.mp h
  have hrun : ((suites.parseGroup pos k out).run m).val.2 = ((suites.parsePairwise (pos + 4) ((k : ℤ) - 4)
      { out with groupCipher := suites.cipher (selectorAt m pos) }).run m).val.2 := by
    rw [parseGroup, ite_run, if_pos (by omega)]
    rfl
  rw [hrun, parsePairwise_listed (by omega) hcount, add_assoc pos 4 2]
  refine ⟨by rw [hpairwise]; rfl, ?_⟩
  show Option.map _ out.is8021x = _
  congr 1
  funext v
  have hleft : (k : ℤ) - 4 - 2 - 4 * (countAt m (pos + 4) : ℤ) = more.length := by omega
  rw [hleft]
  have hsuite (hsix : 6 ≤ more.length) : (more.drop 2).take 4 =
      (selectorAt m (pos + (4 + 2) + 4 * (countAt m (pos + 4) : ℤ) + 2)).toList := by
    have hp : pos + 6 + (4 * countAt m (pos + 4) : ℕ) + (2 : ℕ) =
        pos + (4 + 2) + 4 * (countAt m (pos + 4) : ℤ) + 2 := by
      push_cast
      ring
    rw [show more.length = 2 + (4 + (more.length - 6)) by omega, bytesAt_add, bytesAt_add, hp] at hmore
    rw [← hmore, List.drop_left' (bytesAt_length _), List.take_left' (bytesAt_length _)]
    rfl
  apply if_congr
  · constructor
    · rintro ⟨hsix, hs⟩
      exact ⟨by omega, (hsuite (by omega)).trans (congrArg Vector.toList hs)⟩
    · rintro ⟨hsix, hs⟩
      exact ⟨by omega, Vector.toList_inj.mp ((hsuite hsix).symm.trans hs)⟩
  · rfl
  · rfl

theorem inside_parseGroup (hpos : 0 ≤ pos) (hend : pos + left = n) :
    Inside (fun x => 0 ≤ x ∧ x < (n : ℤ)) (suites.parseGroup pos left out) m := by
  rw [parseGroup, inside_ite]
  split_ifs with hfour hsome
  · rw [inside_bind, inside_readVec, readVec_st]
    refine ⟨fun j hj => by omega, ?_⟩
    apply inside_parsePairwise
    · omega
    · omega
  · exact inside_pure _ _ _
  · exact inside_parsePairwise hpos hend

end Suites

/-! ## What a parser depends on -/

section Depends
variable {m m' : Mem} {suites : Suites} {pos left p : ℤ} {out : Ciphers}

namespace Suites

theorem parsePairwise_val : ((suites.parsePairwise pos left out).run m).val =
    if 2 ≤ left then
      if countAt m pos = 0 ∨ left - 2 < countAt m pos * 4 then (false, out)
      else (true, Ciphers.keyMgmt suites m (pos + 2 + 4 * countAt m pos) (left - 2 - 4 * countAt m pos)
        { out with pairwiseCipher := out.pairwiseCipher |||
            ((selectorsAt m (pos + 2) (countAt m pos)).map suites.cipher).foldr (· ||| ·) 0 })
    else if left = 1 then (false, out)
    else (true, out.keyMgmt suites m pos left) := by
  rw [parsePairwise, ite_run, apply_ite Outcome.val]
  refine if_congr Iff.rfl ?_ ?_
  · show ((ite (countAt m pos = 0 ∨ left - 2 < countAt m pos * 4) _ _ : M (Bool × Ciphers)).run m).val = _
    rw [ite_run, apply_ite Outcome.val]
    refine if_congr Iff.rfl rfl ?_
    rw [bind_val, pairwiseLoop_st, parseKeyMgmt_val, ← pairwiseLoop_val]
    rfl
  · rw [ite_run, apply_ite Outcome.val]
    exact if_congr Iff.rfl rfl parseKeyMgmt_val

theorem parseGroup_val : ((suites.parseGroup pos left out).run m).val =
    if 4 ≤ left then
      ((suites.parsePairwise (pos + 4) (left - 4) { out with groupCipher := suites.cipher (selectorAt m pos) }).run m).val
    else if 0 < left then (false, out)
    else ((suites.parsePairwise pos left out).run m).val := by
  rw [parseGroup, ite_run, apply_ite Outcome.val]
  refine if_congr Iff.rfl rfl ?_
  rw [ite_run, apply_ite Outcome.val]
  rfl

end Suites

theorem rtwParseWpaIe_val (n : ℤ) : ((rtwParseWpaIe n out).run m).val =
    if n ≤ 0 ∨ m 0 ≠ _WPA_IE_ID_ ∨ m 1 ≠ lengthByte n ∨ selectorAt m 2 ≠ RTW_WPA_OUI_TYPE then (false, out)
    else ((wpaSuites.parseGroup 8 (n - 8) out).run m).val := by
  rw [rtwParseWpaIe, ite_run, apply_ite Outcome.val, ite_or]
  refine if_congr Iff.rfl rfl ?_
  rw [bind_val, read_val, read_st, ite_run, apply_ite Outcome.val, ite_or]
  refine if_congr Iff.rfl rfl ?_
  rw [bind_val, read_val, read_st, ite_run, apply_ite Outcome.val, ite_or]
  refine if_congr Iff.rfl rfl ?_
  rw [bind_val, readVec_selectorAt, readVec_st, ite_run, apply_ite Outcome.val]
  rfl

theorem rtwParseWpa2Ie_val (n : ℤ) : ((rtwParseWpa2Ie n out).run m).val =
    if n ≤ 0 ∨ m 0 ≠ _WPA2_IE_ID_ ∨ m 1 ≠ lengthByte n then (false, out)
    else ((rsnSuites.parseGroup 4 (n - 4) out).run m).val := by
  rw [rtwParseWpa2Ie, ite_run, apply_ite Outcome.val, ite_or]
  refine if_congr Iff.rfl rfl ?_
  rw [bind_val, read_val, read_st, ite_run, apply_ite Outcome.val, ite_or]
  refine if_congr Iff.rfl rfl ?_
  rw [bind_val, read_val, read_st, ite_run, apply_ite Outcome.val]
  rfl

end Depends

/-! ## The parsers -/

section Parsers
variable {m : Mem} {n : ℕ}

theorem ne_lengthByte (hlo : 8 ≤ n) (hhi : n ≤ 257) (b : UInt8) : b ≠ lengthByte n ↔ ¬b.toNat = n - 2 := by
  rw [ne_eq, not_iff_not, ← UInt8.toNat_inj, lengthByte, UInt8.toNat_ofNat']
  omega

theorem rtwParseWpaIe_run (out : Ciphers) (hlo : 8 ≤ n) (hhi : n ≤ 257) :
    Inside (fun x => 0 ≤ x ∧ x < (n : ℤ)) (rtwParseWpaIe n out) m ∧
      ((rtwParseWpaIe n out).run m).val =
        if m 0 = _WPA_IE_ID_ ∧ (m 1).toNat = n - 2 ∧ bytesAt m 2 4 = RTW_WPA_OUI_TYPE.toList then
          ((wpaSuites.parseGroup 8 (n - 8 : ℕ) out).run m).val
        else (false, out) := by
  have hlen := ne_lengthByte hlo hhi (m 1)
  have hoff : ((n : ℤ) - 8) = (n - 8 : ℕ) := by omega
  rw [rtwParseWpaIe, if_neg (by omega), inside_bind, inside_read]
  by_cases hid : m 0 ≠ _WPA_IE_ID_
  · rw [bind_val, read_val, if_pos hid, if_neg fun h => hid h.1]
    exact ⟨⟨by omega, inside_pure _ _ _⟩, rfl⟩
  rw [bind_val, read_val, if_neg hid, inside_bind, inside_read, read_st]
  by_cases hlength : m 1 ≠ lengthByte n
  · rw [bind_val, read_val, if_pos hlength, if_neg fun h => hlen.mp hlength h.2.1]
    exact ⟨⟨by omega, by omega, inside_pure _ _ _⟩, rfl⟩
  rw [bind_val, read_val, if_neg hlength, inside_bind, inside_readVec, read_st]
  by_cases houi : selectorAt m 2 ≠ RTW_WPA_OUI_TYPE
  · rw [bind_val, readVec_selectorAt, if_pos houi,
      if_neg fun h => houi ((bytesAt_eq_selector _).mp h.2.2).symm]
    exact ⟨⟨by omega, by omega, fun j hj => by omega, inside_pure _ _ _⟩, rfl⟩
  rw [bind_val, readVec_selectorAt, if_neg houi, readVec_st, if_pos ⟨not_not.mp hid, not_not.mp (mt hlen.mpr hlength),
    (bytesAt_eq_selector _).mpr (not_not.mp houi).symm⟩, hoff]
  exact ⟨⟨by omega, by omega, fun j hj => by omega, Suites.inside_parseGroup (by omega) (by omega)⟩, rfl⟩

theorem rtwParseWpa2Ie_run (out : Ciphers) (hlo : 8 ≤ n) (hhi : n ≤ 257) :
    Inside (fun x => 0 ≤ x ∧ x < (n : ℤ)) (rtwParseWpa2Ie n out) m ∧
      ((rtwParseWpa2Ie n out).run m).val =
        if m 0 = _WPA2_IE_ID_ ∧ (m 1).toNat = n - 2 then ((rsnSuites.parseGroup 4 (n - 4 : ℕ) out).run m).val
        else (false, out) := by
  have hlen := ne_lengthByte hlo hhi (m 1)
  have hoff : ((n : ℤ) - 4) = (n - 4 : ℕ) := by omega
  rw [rtwParseWpa2Ie, if_neg (by omega), inside_bind, inside_read]
  by_cases hid : m 0 ≠ _WPA2_IE_ID_
  · rw [bind_val, read_val, if_pos hid, if_neg fun h => hid h.1]
    exact ⟨⟨by omega, inside_pure _ _ _⟩, rfl⟩
  rw [bind_val, read_val, if_neg hid, inside_bind, inside_read, read_st]
  by_cases hlength : m 1 ≠ lengthByte n
  · rw [bind_val, read_val, if_pos hlength, if_neg fun h => hlen.mp hlength h.2]
    exact ⟨⟨by omega, by omega, inside_pure _ _ _⟩, rfl⟩
  rw [bind_val, read_val, if_neg hlength, if_pos ⟨not_not.mp hid, not_not.mp (mt hlen.mpr hlength)⟩, read_st, hoff]
  exact ⟨⟨by omega, by omega, Suites.inside_parseGroup (by omega) (by omega)⟩, rfl⟩

theorem exact_of_run {parse : Ciphers → M (Bool × Ciphers)} {suites : Suites} {header : Prop} [Decidable header] {pos : ℤ}
    {k : ℕ} {out : Ciphers} (hrun : Inside (fun x => 0 ≤ x ∧ x < (n : ℤ)) (parse out) m ∧ ((parse out).run m).val =
      if header then ((suites.parseGroup pos k out).run m).val else (false, out)) :
    Exact parse suites header (bytesAt m pos k) n m out := by
  obtain ⟨hinside, hval⟩ := hrun
  have haccepts : ((parse out).run m).val.1 = true ↔ header ∧ Grammar (bytesAt m pos k) := by
    rw [hval]
    by_cases hheader : header
    · rw [if_pos hheader, Suites.parseGroup_accepts]
      exact ⟨fun h => ⟨hheader, h⟩, fun h => h.2⟩
    · rw [if_neg hheader]
      exact ⟨fun h => absurd h Bool.false_ne_true, fun h => absurd h.1 hheader⟩
  refine ⟨hinside, haccepts, fun group pairwise more hheader hlist => ?_, fun group pairwise more hheader hlist => ?_⟩
  · rw [hval, if_pos hheader]
    exact (Suites.parseGroup_listed k hlist).1
  · rw [hval, if_pos hheader]
    exact (Suites.parseGroup_listed k hlist).2

/-- Both parsers obey the one grammar, each behind its own header. -/
theorem securityIes_exact (hlo : 8 ≤ n) (hhi : n ≤ 257) (out : Ciphers) :
    Exact (rtwParseWpaIe n) wpaSuites
        (m 0 = _WPA_IE_ID_ ∧ (m 1).toNat = n - 2 ∧ bytesAt m 2 4 = RTW_WPA_OUI_TYPE.toList) (bytesAt m 8 (n - 8)) n m out ∧
      Exact (rtwParseWpa2Ie n) rsnSuites (m 0 = _WPA2_IE_ID_ ∧ (m 1).toNat = n - 2) (bytesAt m 4 (n - 4)) n m out :=
  ⟨exact_of_run (rtwParseWpaIe_run out hlo hhi), exact_of_run (rtwParseWpa2Ie_run out hlo hhi)⟩

/-- An element with one pairwise suite and 802.1X. -/
def ccmp1x : Mem := fun x => [0xdd, 22, 0x00, 0x50, 0xf2, 1, 1, 0, 0x00, 0x50, 0xf2, 4, 1, 0, 0x00, 0x50, 0xf2, 4, 1, 0,
  0x00, 0x50, 0xf2, 1].getD x.toNat 0

theorem securityIes_exact_ccmp1x :
    Exact (rtwParseWpaIe (24 : ℕ)) wpaSuites
        (ccmp1x 0 = _WPA_IE_ID_ ∧ (ccmp1x 1).toNat = 24 - 2 ∧ bytesAt ccmp1x 2 4 = RTW_WPA_OUI_TYPE.toList)
        (bytesAt ccmp1x 8 (24 - 8)) 24 ccmp1x ⟨0, 0, some 0⟩ ∧
      Exact (rtwParseWpa2Ie (24 : ℕ)) rsnSuites (ccmp1x 0 = _WPA2_IE_ID_ ∧ (ccmp1x 1).toNat = 24 - 2)
        (bytesAt ccmp1x 4 (24 - 4)) 24 ccmp1x ⟨0, 0, some 0⟩ :=
  securityIes_exact (by decide) (by decide) ⟨0, 0, some 0⟩

example : ((rtwParseWpaIe 24 ⟨0, 0, some 0⟩).run ccmp1x).val.1 = true := by decide +kernel

end Parsers

end Rtl8723au.Ieee80211
