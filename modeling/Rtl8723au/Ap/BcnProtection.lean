import Rtl8723au.Ap.BcnCap

/-! When the ERP element and the operation mode of the beacon say what the counters say, over every run of
stations that join and leave. -/
namespace Rtl8723au
open Mem Security Tlv
set_option autoImplicit false

/-! ## The ERP element -/

def erpElement (data : UInt8) : Tlv := ⟨_ERPINFO_IE_, [data], by simp⟩

/-- The beacon of a running cell has an ERP element of one byte. -/
structure ErpBcn (fixed : List UInt8) (pre post : List Tlv) (data : UInt8) (bcn : BcnInfo) : Prop where
  network : BcnOf fixed (pre ++ erpElement data :: post) bcn.network
  erpEnable : bcn.erpEnable = true
  bstartBss : bcn.bstartBss = true

theorem bytesAt_update {m : Mem} {p : ℤ} {a b : List UInt8} {d : UInt8} (d' : UInt8)
    (h : bytesAt m p (a ++ d :: b).length = a ++ d :: b) :
    bytesAt (Function.update m (p + a.length) d') p (a ++ d' :: b).length = a ++ d' :: b := by
  have hlen : (a ++ d' :: b).length = (a ++ d :: b).length := by
    rw [List.length_append, List.length_append, List.length_cons, List.length_cons]
  apply bytesAt_eq
  intro k hk
  by_cases hk' : k = a.length
  · rw [hk', Function.update_self, List.getD_append_right _ _ _ _ le_rfl, Nat.sub_self]
    rfl
  · rw [Function.update_of_ne (by omega), getD_bytesAt p h k (hlen ▸ hk)]
    by_cases hlt : k < a.length
    · rw [List.getD_append _ _ _ _ hlt, List.getD_append _ _ _ _ hlt]
    · obtain ⟨j, hj⟩ := Nat.exists_eq_add_of_lt (Nat.lt_of_le_of_ne (Nat.le_of_not_lt hlt) (Ne.symm hk'))
      have hsub : k - a.length = j + 1 := by omega
      rw [List.getD_append_right _ _ _ _ (by omega), List.getD_append_right _ _ _ _ (by omega), hsub]
      rfl

section Erp
variable {rtwMalloc : ℕ → Bool} {mlme : MlmePriv} {fixed : List UInt8} {pre post : List Tlv} {data : UInt8}
  {bcn : BcnInfo}

def erpPlace (pre : List Tlv) : ℤ := _FIXED_IE_LENGTH_ + (encodeAll pre).length + 2

variable (h : ErpBcn fixed pre post data bcn) (hpre : ∀ e ∈ pre, e.id ≠ _ERPINFO_IE_)
include h

theorem ErpBcn.byte : bcn.network.ies (erpPlace pre) = data := by
  have helements := h.network.elements
  rw [encodeAll_append, encodeAll_cons] at helements
  have hget := getD_bytesAt _ helements ((encodeAll pre).length + 2) (by
    rw [List.length_append, List.length_append, encode_length, size]
    show _ < _ + (1 + 2 + _)
    omega)
  rw [List.getD_append_right _ _ _ _ (by omega), Nat.add_sub_cancel_left] at hget
  rw [erpPlace, add_assoc]
  exact_mod_cast hget

include hpre in
theorem updateBcnErpinfoIe_eq :
    updateBcnErpinfoIe mlme bcn =
      { bcn with
        network := { bcn.network with ies := Function.update bcn.network.ies (erpPlace pre) (erpInfo mlme data) }
        erpEnable := true
        erpIe := erpInfo mlme data } := by
  have hfound := rtwGetIe_found h.network.elements rfl hpre
  have hid : (erpElement data).id = _ERPINFO_IE_ := rfl
  have hlen : (erpElement data).body.length = 1 := rfl
  rw [hid, hlen] at hfound
  have hdata : bcn.network.ies (_FIXED_IE_LENGTH_ + (encodeAll pre).length + 2) = data := h.byte
  unfold updateBcnErpinfoIe
  rw [h.erpEnable, h.network.limit_eq]
  dsimp only
  rw [hfound]
  simp only [Bool.not_true, Bool.false_eq_true, if_false, one_ne_zero, hdata]
  rfl

include hpre in
/-- **The update of the ERP element** writes its byte and nothing else of the beacon. -/
theorem updateBeacon_erp :
    ErpBcn fixed pre post (erpInfo mlme data) (updateBeacon rtwMalloc mlme _ERPINFO_IE_ bcn) ∧
      (updateBeacon rtwMalloc mlme _ERPINFO_IE_ bcn).htOpMode = bcn.htOpMode ∧
      (updateBeacon rtwMalloc mlme _ERPINFO_IE_ bcn).htCapInfo = bcn.htCapInfo := by
  have hrun : updateBeacon rtwMalloc mlme _ERPINFO_IE_ bcn =
      { updateBcnErpinfoIe mlme bcn with updateBcn := true } := by
    unfold updateBeacon
    rw [h.bstartBss]
    rfl
  rw [hrun, updateBcnErpinfoIe_eq h hpre]
  refine ⟨⟨⟨h.network.fixedLength, ?_, h.network.fits⟩, rfl, h.bstartBss⟩, rfl, rfl⟩
  have hlist : ∀ d : UInt8, fixed ++ encodeAll (pre ++ erpElement d :: post) =
      (fixed ++ encodeAll pre ++ [_ERPINFO_IE_, 1]) ++ d :: encodeAll post := by
    intro d
    rw [encodeAll_append, encodeAll_cons]
    simp [encode, erpElement]
  have hplace : erpPlace pre = 0 + ((fixed ++ encodeAll pre ++ [_ERPINFO_IE_, 1]).length : ℤ) := by
    rw [erpPlace, List.length_append, List.length_append, h.network.fixedLength, zero_add]
    push_cast
    rfl
  have hold := h.network.bytes
  have hsize := congrArg List.length hold
  rw [bytesAt_length, hlist] at hsize
  rw [hlist, hsize] at hold
  have hnew := bytesAt_update (erpInfo mlme data) hold
  rw [← hplace, ← hlist] at hnew
  have hsame : (fixed ++ encodeAll (pre ++ erpElement (erpInfo mlme data) :: post)).length =
      bcn.network.ieLength := by
    rw [hsize, hlist]
    simp only [List.length_append, List.length_cons]
  rw [hsame] at hnew
  exact hnew

end Erp

/-- The protection bits say whether there is a station without ERP, the preamble bit whether there is one
without short preamble. -/
structure ErpRight (nonErp noShortPreamble : ℤ) (data : UInt8) : Prop where
  present : data &&& RTW_ERP_INFO_NON_ERP_PRESENT ≠ 0 ↔ 0 < nonErp
  protection : data &&& RTW_ERP_INFO_USE_PROTECTION ≠ 0 ↔ 0 < nonErp
  preamble : data &&& RTW_ERP_INFO_BARKER_PREAMBLE_MODE ≠ 0 ↔ 0 < noShortPreamble

theorem erpInfo_bits (mlme : MlmePriv) (data : UInt8) :
    (erpInfo mlme data &&& RTW_ERP_INFO_NON_ERP_PRESENT ≠ 0 ↔ mlme.numStaNonErp = 1) ∧
      (erpInfo mlme data &&& RTW_ERP_INFO_USE_PROTECTION ≠ 0 ↔ mlme.numStaNonErp = 1) ∧
      (erpInfo mlme data &&& RTW_ERP_INFO_BARKER_PREAMBLE_MODE ≠ 0 ↔ 0 < mlme.numStaNoShortPreamble) := by
  have hbits : ∀ b : BitVec 8, ∀ data, data = UInt8.ofBitVec b →
      ((data ||| 3 ||| 4) &&& 1 ≠ 0 ∧ (data ||| 3 ||| 4) &&& 2 ≠ 0 ∧ (data ||| 3 ||| 4) &&& 4 ≠ 0) ∧
      ((data ||| 3) &&& ~~~4 &&& 1 ≠ 0 ∧ (data ||| 3) &&& ~~~4 &&& 2 ≠ 0 ∧ (data ||| 3) &&& ~~~4 &&& 4 = 0) ∧
      ((data &&& ~~~3 ||| 4) &&& 1 = 0 ∧ (data &&& ~~~3 ||| 4) &&& 2 = 0 ∧ (data &&& ~~~3 ||| 4) &&& 4 ≠ 0) ∧
      (data &&& ~~~3 &&& ~~~4 &&& 1 = 0 ∧ data &&& ~~~3 &&& ~~~4 &&& 2 = 0 ∧ data &&& ~~~3 &&& ~~~4 &&& 4 = 0) := by
    intro b data hdata
    subst hdata
    revert b
    decide +kernel
  obtain ⟨hboth, hone, hbarker, hnone⟩ := hbits data.toBitVec data rfl
  unfold erpInfo
  by_cases hn : mlme.numStaNonErp = 1
  · by_cases hp : 0 < mlme.numStaNoShortPreamble
    · simp only [if_pos hn, if_pos hp]
      exact ⟨iff_of_true hboth.1 hn, iff_of_true hboth.2.1 hn, iff_of_true hboth.2.2 hp⟩
    · simp only [if_pos hn, if_neg hp]
      exact ⟨iff_of_true hone.1 hn, iff_of_true hone.2.1 hn, iff_of_false (not_not.mpr hone.2.2) hp⟩
  · by_cases hp : 0 < mlme.numStaNoShortPreamble
    · simp only [if_neg hn, if_pos hp]
      exact ⟨iff_of_false (not_not.mpr hbarker.1) hn, iff_of_false (not_not.mpr hbarker.2.1) hn,
        iff_of_true hbarker.2.2 hp⟩
    · simp only [if_neg hn, if_neg hp]
      exact ⟨iff_of_false (not_not.mpr hnone.1) hn, iff_of_false (not_not.mpr hnone.2.1) hn,
        iff_of_false (not_not.mpr hnone.2.2) hp⟩

theorem erpInfo_right (mlme : MlmePriv) (data : UInt8) (h : mlme.numStaNonErp = 0 ∨ mlme.numStaNonErp = 1) :
    ErpRight mlme.numStaNonErp mlme.numStaNoShortPreamble (erpInfo mlme data) := by
  obtain ⟨hpresent, hprotection, hpreamble⟩ := erpInfo_bits mlme data
  have hone : mlme.numStaNonErp = 1 ↔ 0 < mlme.numStaNonErp := by omega
  exact ⟨hpresent.trans hone, hprotection.trans hone, hpreamble⟩

theorem ErpRight.iff {n p n' p' : ℤ} {data : UInt8} (h : ErpRight n p data) :
    ErpRight n' p' data ↔ (0 < n' ↔ 0 < n) ∧ (0 < p' ↔ 0 < p) := by
  constructor
  · intro h'
    exact ⟨h'.present.symm.trans h.present, h'.preamble.symm.trans h.preamble⟩
  · rintro ⟨hn, hp⟩
    exact ⟨h.present.trans hn.symm, h.protection.trans hn.symm, h.preamble.trans hp.symm⟩

/-! ## Counting a capability -/

/-- The number of stations that lack something passes between none and one. -/
def Crosses (lacking counted : Bool) (n : ℤ) : Prop := lacking ≠ counted ∧ n = if counted then 1 else 0

instance (lacking counted : Bool) (n : ℤ) : Decidable (Crosses lacking counted n) :=
  inferInstanceAs (Decidable (_ ∧ _))

def recount (lacking counted : Bool) (n : ℤ) : ℤ := n - (if counted then 1 else 0) + if lacking then 1 else 0

theorem crosses_iff {lacking counted : Bool} {n : ℤ} (hn : (if counted then 1 else 0) ≤ n) :
    (0 < recount lacking counted n ↔ 0 < n) ↔ ¬ Crosses lacking counted n := by
  unfold recount Crosses
  cases lacking <;> cases counted <;> simp at hn ⊢ <;> omega

theorem Crosses.recount {lacking counted : Bool} {n : ℤ} (h : Crosses lacking counted n) :
    recount lacking counted n = if lacking then 1 else 0 := by
  unfold Rtl8723au.recount
  rw [h.2]
  ring

/-- The beacon but for the mark that it changed. -/
def SameBcn (bcn bcn' : BcnInfo) : Prop := bcn' = { bcn with updateBcn := bcn'.updateBcn }

namespace SameBcn

theorem refl (bcn : BcnInfo) : SameBcn bcn bcn := rfl

theorem erp {fixed : List UInt8} {pre post : List Tlv} {data : UInt8} {bcn bcn' : BcnInfo}
    (h : SameBcn bcn bcn') (herp : ErpBcn fixed pre post data bcn) : ErpBcn fixed pre post data bcn' := by
  unfold SameBcn at h
  rw [h]
  exact ⟨herp.network, herp.erpEnable, herp.bstartBss⟩

end SameBcn

section Count
variable (rtwMalloc : ℕ → Bool) {fixed : List UInt8} {pre post : List Tlv} {data : UInt8} {x : CapBcn}

theorem updateBeacon_same (mlme : MlmePriv) (bcn : BcnInfo) {ieId : UInt8} (htim : ieId ≠ _TIM_IE_)
    (herp : ieId ≠ _ERPINFO_IE_) : SameBcn bcn (updateBeacon rtwMalloc mlme ieId bcn) := by
  unfold updateBeacon
  dsimp only
  rw [if_neg htim, if_neg herp]
  split
  · exact SameBcn.refl bcn
  · rfl

theorem count_same (cap : BssCap) {ieId : UInt8} (gate lacking : Bool) (htim : ieId ≠ _TIM_IE_)
    (herp : ieId ≠ _ERPINFO_IE_) : SameBcn x.bcn (x.count rtwMalloc cap ieId gate lacking).bcn := by
  unfold CapBcn.count
  split
  · exact SameBcn.refl x.bcn
  · by_cases hgate : (gate && (capUpdate cap lacking x.caps).2.numSta cap == (if lacking then 1 else 0)) = true
    · have hbcn := updateBeacon_same rtwMalloc (capUpdate cap lacking x.caps).2 x.bcn htim herp
      rw [if_pos hgate]
      exact hbcn
    · rw [if_neg hgate]
      exact SameBcn.refl x.bcn

theorem capUpdate_numSta (cap : BssCap) (lacking : Bool) (x : CapState) :
    (capUpdate cap lacking x).2.numSta cap = recount lacking (x.1.capSet cap) (x.2.numSta cap) := by
  rw [(CapMoved.update cap lacking x).numSta cap, capUpdate_capSet, if_pos rfl, recount]

theorem capUpdate_numSta_other {cap cap' : BssCap} (h : cap' ≠ cap) (lacking : Bool) (x : CapState) :
    (capUpdate cap lacking x).2.numSta cap' = x.2.numSta cap' := by
  have hmoved := (CapMoved.update cap lacking x).numSta cap'
  rw [capUpdate_capSet, if_neg h] at hmoved
  omega

/-- The ERP element is written when the number of stations without ERP passes between none and one. -/
theorem count_erp (h : ErpBcn fixed pre post data x.bcn) (hpre : ∀ e ∈ pre, e.id ≠ _ERPINFO_IE_) (lacking : Bool) :
    let y := x.count rtwMalloc .nonerp _ERPINFO_IE_ true lacking
    ErpBcn fixed pre post
      (if Crosses lacking (x.caps.1.capSet .nonerp) (x.caps.2.numSta .nonerp) then erpInfo y.caps.2 data else data)
      y.bcn ∧ y.bcn.htOpMode = x.bcn.htOpMode ∧ y.bcn.htCapInfo = x.bcn.htCapInfo := by
  intro y
  by_cases hset : x.caps.1.capSet .nonerp = lacking
  · have hy : y = x := if_pos hset
    rw [hy, if_neg fun hcross => hcross.1 hset.symm]
    exact ⟨h, rfl, rfl⟩
  · have hcount : y = if true && (capUpdate .nonerp lacking x.caps).2.numSta .nonerp == (if lacking then 1 else 0) then
        { CapBcn.update rtwMalloc _ERPINFO_IE_ { x with caps := capUpdate .nonerp lacking x.caps } with
          beaconUpdated := true }
        else { x with caps := capUpdate .nonerp lacking x.caps } := if_neg hset
    rw [Bool.true_and, capUpdate_numSta] at hcount
    by_cases hcross : Crosses lacking (x.caps.1.capSet .nonerp) (x.caps.2.numSta .nonerp)
    · rw [hcross.recount, if_pos (beq_self_eq_true _)] at hcount
      rw [if_pos hcross, hcount]
      exact updateBeacon_erp h hpre
    · have hne : ¬ (recount lacking (x.caps.1.capSet .nonerp) (x.caps.2.numSta .nonerp) ==
          (if lacking then 1 else 0)) = true := by
        rw [beq_iff_eq]
        intro heq
        refine hcross ⟨fun e => hset e.symm, ?_⟩
        unfold recount at heq
        omega
      rw [if_neg hne] at hcount
      rw [if_neg hcross, hcount]
      exact ⟨h, rfl, rfl⟩

end Count

end Rtl8723au
