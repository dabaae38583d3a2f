import Rtl8723au.Ap.BcnProtection

/-! Runs of stations that join and leave: in which of them the beacon always says what the counters say. -/
namespace Rtl8723au
open Mem Security Tlv
set_option autoImplicit false

/-! ## What counting leaves alone -/

/-- The capabilities the station asked for and the cell's own. -/
structure CapFrame (x y : CapState) : Prop where
  flags : y.1.flags = x.1.flags
  htCapInfo : y.1.htCapInfo = x.1.htCapInfo
  htOption : y.2.htOption = x.2.htOption

namespace CapFrame
variable {x y z : CapState}

theorem refl (x : CapState) : CapFrame x x := ⟨rfl, rfl, rfl⟩

theorem trans (hxy : CapFrame x y) (hyz : CapFrame y z) : CapFrame x z :=
  ⟨hyz.flags.trans hxy.flags, hyz.htCapInfo.trans hxy.htCapInfo, hyz.htOption.trans hxy.htOption⟩

theorem flip (x : CapState) (cap : BssCap) (on : Bool) (d : ℤ) :
    CapFrame x (x.1.withCap cap on, x.2.addNumSta cap d) := by
  cases cap <;> exact ⟨rfl, rfl, rfl⟩

theorem mark (cap : BssCap) (x : CapState) : CapFrame x (capMark cap x) := by
  unfold capMark
  split
  · exact refl x
  · exact flip x cap true 1

theorem unmark (cap : BssCap) (x : CapState) : CapFrame x (capUnmark cap x) := by
  unfold capUnmark
  split
  · exact flip x cap false (-1)
  · exact refl x

theorem update (cap : BssCap) (lacking : Bool) (x : CapState) : CapFrame x (capUpdate cap lacking x) := by
  unfold capUpdate
  split
  · exact mark cap x
  · exact unmark cap x

theorem htJoin (x : CapState) : CapFrame x (htCapJoin x) := by
  unfold htCapJoin
  dsimp only
  have hht := unmark .noHt x
  have hgf : CapFrame x (if x.1.htCapInfo &&& IEEE80211_HT_CAP_GRN_FLD = 0 then
      capMark .noHtGf (capUnmark .noHt x) else capUnmark .noHt x) := by
    split
    · exact hht.trans (mark .noHtGf _)
    · exact hht
  split
  · split
    · exact hgf.trans (mark .ht20mhz _)
    · exact hgf
  · exact mark .noHt x

end CapFrame

theorem htCapJoin_capSet (x : CapState) :
    (htCapJoin x).1.capSet .noHt = !x.1.hasFlag WLAN_STA_HT ∧
      (htCapJoin x).1.capSet .noHtGf = (x.1.capSet .noHtGf ||
        x.1.hasFlag WLAN_STA_HT && decide (x.1.htCapInfo &&& IEEE80211_HT_CAP_GRN_FLD = 0)) ∧
      (htCapJoin x).1.capSet .ht20mhz = (x.1.capSet .ht20mhz ||
        x.1.hasFlag WLAN_STA_HT && decide (x.1.htCapInfo &&& IEEE80211_HT_CAP_SUP_WIDTH_20_40 = 0)) ∧
      (htCapJoin x).1.capSet .nonerp = x.1.capSet .nonerp ∧
      (htCapJoin x).1.capSet .noShortPreamble = x.1.capSet .noShortPreamble := by
  unfold htCapJoin
  by_cases hht : x.1.hasFlag WLAN_STA_HT = true
  · by_cases hgf : x.1.htCapInfo &&& IEEE80211_HT_CAP_GRN_FLD = 0 <;>
      by_cases hwidth : x.1.htCapInfo &&& IEEE80211_HT_CAP_SUP_WIDTH_20_40 = 0 <;>
      simp [hht, hgf, hwidth, capMark_capSet, capUnmark_capSet]
  · simp [hht, capMark_capSet]

/-! ## One station -/

namespace CapBcn
variable (rtwMalloc : ℕ → Bool) {fixed : List UInt8} {pre post : List Tlv} {data : UInt8} {x : CapBcn}

/-- The counts that both handlers begin with. -/
def countBasic (above11b noPreamble nonerp noSlot : Bool) (x : CapBcn) : CapBcn :=
  let x := x.count rtwMalloc .noShortPreamble 0xff above11b noPreamble
  let x := x.count rtwMalloc .nonerp _ERPINFO_IE_ true nonerp
  x.count rtwMalloc .noShortSlotTime 0xff above11b noSlot

/-- A station is counted, for one capability, in a number that counts it. -/
def Counted (cap : BssCap) (x : CapState) : Prop := (if x.1.capSet cap then 1 else 0) ≤ x.2.numSta cap

/-- **The ERP element behind the counts is right** unless the stations without short preamble passed between
none and one and those without ERP did not. -/
theorem countBasic_erp (above11b noPreamble nonerp noSlot : Bool) (h : ErpBcn fixed pre post data x.bcn)
    (hpre : ∀ e ∈ pre, e.id ≠ _ERPINFO_IE_)
    (hright : ErpRight (x.caps.2.numSta .nonerp) (x.caps.2.numSta .noShortPreamble) data)
    (hn : Counted .nonerp x.caps) (hp : Counted .noShortPreamble x.caps) :
    let y := x.countBasic rtwMalloc above11b noPreamble nonerp noSlot
    ∃ data', ErpBcn fixed pre post data' y.bcn ∧
      (ErpRight (recount nonerp (x.caps.1.capSet .nonerp) (x.caps.2.numSta .nonerp))
        (recount noPreamble (x.caps.1.capSet .noShortPreamble) (x.caps.2.numSta .noShortPreamble)) data' ↔
        (Crosses noPreamble (x.caps.1.capSet .noShortPreamble) (x.caps.2.numSta .noShortPreamble) →
          Crosses nonerp (x.caps.1.capSet .nonerp) (x.caps.2.numSta .nonerp))) ∧
      y.bcn.htOpMode = x.bcn.htOpMode ∧ y.bcn.htCapInfo = x.bcn.htCapInfo := by
  intro y
  let x1 := x.count rtwMalloc .noShortPreamble 0xff above11b noPreamble
  have hcaps1 : x1.caps = capUpdate .noShortPreamble noPreamble x.caps := count_caps rtwMalloc _ _ _ _ x
  have hset1 : x1.caps.1.capSet .nonerp = x.caps.1.capSet .nonerp := by
    rw [hcaps1, capUpdate_capSet]
    rfl
  have hnum1 : x1.caps.2.numSta .nonerp = x.caps.2.numSta .nonerp := by
    rw [hcaps1, capUpdate_numSta_other (by decide)]
  have hsame1 : SameBcn x.bcn x1.bcn := count_same rtwMalloc _ _ _ (by decide) (by decide)
  obtain ⟨herp, hmode, hinfo⟩ := count_erp rtwMalloc (hsame1.erp h) hpre nonerp
  let x2 := x1.count rtwMalloc .nonerp _ERPINFO_IE_ true nonerp
  have hcaps2 : x2.caps = capUpdate .nonerp nonerp x1.caps := count_caps rtwMalloc _ _ _ _ x1
  have hsame3 : SameBcn x2.bcn y.bcn := count_same rtwMalloc _ _ _ (by decide) (by decide)
  rw [hset1, hnum1] at herp
  refine ⟨_, hsame3.erp herp, ?_, ?_, ?_⟩
  · by_cases hcross : Crosses nonerp (x.caps.1.capSet .nonerp) (x.caps.2.numSta .nonerp)
    · rw [if_pos hcross]
      refine iff_of_true ?_ fun _ => hcross
      have hn2 : x2.caps.2.numSta .nonerp = recount nonerp (x.caps.1.capSet .nonerp) (x.caps.2.numSta .nonerp) := by
        rw [hcaps2, capUpdate_numSta, hset1, hnum1]
      have hp2 : x2.caps.2.numSta .noShortPreamble =
          recount noPreamble (x.caps.1.capSet .noShortPreamble) (x.caps.2.numSta .noShortPreamble) := by
        rw [hcaps2, capUpdate_numSta_other (by decide), hcaps1, capUpdate_numSta]
      rw [← hn2, ← hp2]
      refine erpInfo_right x2.caps.2 data ?_
      show x2.caps.2.numSta .nonerp = 0 ∨ x2.caps.2.numSta .nonerp = 1
      rw [hn2, hcross.recount]
      cases nonerp
      · exact .inl rfl
      · exact .inr rfl
    · rw [if_neg hcross, hright.iff]
      have hkeep := (crosses_iff hn).mpr hcross
      rw [crosses_iff hp, and_iff_right hkeep]
      exact ⟨fun hno hpcross => absurd hpcross hno, fun hto hpcross => hcross (hto hpcross)⟩
  · have h3 : y.bcn.htOpMode = x2.bcn.htOpMode := by rw [hsame3]
    have h1 : x1.bcn.htOpMode = x.bcn.htOpMode := by rw [hsame1]
    exact h3.trans (hmode.trans h1)
  · have h3 : y.bcn.htCapInfo = x2.bcn.htCapInfo := by rw [hsame3]
    have h1 : x1.bcn.htCapInfo = x.bcn.htCapInfo := by rw [hsame1]
    exact h3.trans (hinfo.trans h1)

theorem htOperation_bcn (h : x.caps.2.htOption = true) : (x.htOperation rtwMalloc).bcn = x.bcn := by
  unfold htOperation rtwHtOperationUpdate
  rw [if_pos h]
  rfl

end CapBcn

/-! ## All stations -/

def flagged (a : RtwAdapter) (cap : BssCap) : List StaId := (List.finRange 32).filter fun p => (a.staInfo p).capSet cap

/-- Every counter is the number of stations that have its flag. -/
def CapCounts (a : RtwAdapter) : Prop := ∀ cap, a.mlmepriv.numSta cap = (flagged a cap).length

namespace CapCounts
variable {a : RtwAdapter} (counts : CapCounts a)
include counts

theorem counted (cap : BssCap) (p : StaId) : CapBcn.Counted cap (a.staInfo p, a.mlmepriv) := by
  unfold CapBcn.Counted
  dsimp only
  rw [counts cap]
  by_cases hset : (a.staInfo p).capSet cap = true
  · rw [if_pos hset]
    have hmem : p ∈ flagged a cap := List.mem_filter.mpr ⟨List.mem_finRange p, hset⟩
    have hpos := List.length_pos_of_mem hmem
    omega
  · rw [if_neg hset]
    exact Int.natCast_nonneg _

theorem clear (cap : BssCap) (h : a.mlmepriv.numSta cap = 0) (p : StaId) : (a.staInfo p).capSet cap = false := by
  have hcounted := counts.counted cap p
  unfold CapBcn.Counted at hcounted
  dsimp only at hcounted
  rw [h] at hcounted
  cases hset : (a.staInfo p).capSet cap with
  | false => rfl
  | true =>
    rw [hset] at hcounted
    exact absurd hcounted (by decide)

theorem move {b : RtwAdapter} (p : StaId) (hinfo : ∀ q, q ≠ p → b.staInfo q = a.staInfo q)
    (moved : CapMoved (a.staInfo p, a.mlmepriv) (b.staInfo p, b.mlmepriv)) : CapCounts b := by
  intro cap
  have hlen := length_filter_update (fun q => (a.staInfo q).capSet cap) (fun q => (b.staInfo q).capSet cap) p
    (fun q hq => by rw [hinfo q hq]) (List.finRange 32) (List.nodup_finRange 32) (List.mem_finRange p)
  have hbalance := moved.balance cap
  have hold := counts cap
  unfold flagged at hold ⊢
  dsimp only at hlen hbalance
  omega

end CapCounts

namespace CapEvent

def psta : CapEvent → StaId
  | .join psta _ _ _ => psta
  | .leave psta => psta

/-- The station counts as one without short preamble afterwards. -/
def lacksPreamble : CapEvent → Bool
  | .join _ flags _ _ => !(flags &&& WLAN_STA_SHORT_PREAMBLE != 0)
  | .leave _ => false

/-- The station counts as one without ERP afterwards. -/
def lacksErp : CapEvent → Bool
  | .join _ flags _ _ => flags &&& WLAN_STA_NONERP != 0
  | .leave _ => false

/-- A station that joins has 802.11n with greenfield, and 40 MHz where the cell has it. -/
def PureHt (htCapInfo : UInt16) : CapEvent → Prop
  | .join _ flags _ staCapInfo => flags &&& WLAN_STA_HT ≠ 0 ∧ staCapInfo &&& IEEE80211_HT_CAP_GRN_FLD ≠ 0 ∧
    (htCapInfo &&& IEEE80211_HT_CAP_SUP_WIDTH_20_40 ≠ 0 → staCapInfo &&& IEEE80211_HT_CAP_SUP_WIDTH_20_40 ≠ 0)
  | .leave _ => True

end CapEvent

/-- The operation mode as the comment over `rtw_ht_operation_update` describes it. -/
def htMode (mlme : MlmePriv) (htCapInfo : UInt16) : UInt16 :=
  if 0 < mlme.numStaNoHt ∨ 0 < mlme.numStaHtNoGf then OP_MODE_MIXED
  else if htCapInfo &&& IEEE80211_HT_CAP_SUP_WIDTH_20_40 ≠ 0 ∧ 0 < mlme.numStaHt20mhz then
    OP_MODE_20MHZ_HT_STA_ASSOCED
  else OP_MODE_PURE

/-- The ERP element and the operation mode say what the counters say. -/
structure BcnTells (fixed : List UInt8) (pre post : List Tlv) (s : BcnAp) : Prop where
  erp : ∃ data, ErpBcn fixed pre post data s.bcn ∧
    ErpRight s.ap.mlmepriv.numStaNonErp s.ap.mlmepriv.numStaNoShortPreamble data
  mode : s.bcn.htOpMode &&& HT_INFO_OPERATION_MODE_OP_MODE_MASK = htMode s.ap.mlmepriv s.bcn.htCapInfo

/-- The step keeps the operation mode pure, and the number of stations without short preamble passes between
none and one only together with that of the stations without ERP. -/
def KeepsBcn (s : BcnAp) (event : CapEvent) : Prop :=
  event.PureHt s.bcn.htCapInfo ∧
    (Crosses event.lacksPreamble ((s.ap.staInfo event.psta).capSet .noShortPreamble)
        s.ap.mlmepriv.numStaNoShortPreamble →
      Crosses event.lacksErp ((s.ap.staInfo event.psta).capSet .nonerp) s.ap.mlmepriv.numStaNonErp)

/-! ## One step on the counters -/

namespace CapEvent

/-- What the event does to a station and the counters. -/
def caps (event : CapEvent) (x : CapState) : CapState :=
  match event with
  | .join _ flags capability htCapInfo =>
    capJoin ({ x.1 with flags := flags, capability := capability, htCapInfo := htCapInfo }, x.2)
  | .leave _ => capLeave x

variable (event : CapEvent) (x : CapState)

theorem caps_moved : CapMoved x (event.caps x) := by
  cases event with
  | join psta flags capability htCapInfo =>
    have hmoved := CapMoved.join ({ x.1 with flags := flags, capability := capability, htCapInfo := htCapInfo }, x.2)
    refine ⟨hmoved.hwaddr, hmoved.aid, hmoved.state, fun cap => (hmoved.balance cap).trans ?_⟩
    cases cap <;> rfl
  | leave psta => exact CapMoved.leave x

theorem caps_preamble : (event.caps x).1.capSet .noShortPreamble = event.lacksPreamble := by
  cases event with
  | join psta flags capability htCapInfo =>
    unfold caps capJoin
    dsimp only
    rw [(htCapJoin_capSet _).2.2.2.2, capUpdate_capSet, if_neg (by decide), capUpdate_capSet, if_neg (by decide),
      capUpdate_capSet, if_pos rfl]
    rfl
  | leave psta => exact capLeave_noCaps x _

theorem caps_erp : (event.caps x).1.capSet .nonerp = event.lacksErp := by
  cases event with
  | join psta flags capability htCapInfo =>
    unfold caps capJoin
    dsimp only
    rw [(htCapJoin_capSet _).2.2.2.1, capUpdate_capSet, if_neg (by decide), capUpdate_capSet, if_pos rfl]
    rfl
  | leave psta => exact capLeave_noCaps x _

theorem caps_ht (hgf : x.1.capSet .noHtGf = false) (htCapInfo : UInt16)
    (hwidth : htCapInfo &&& IEEE80211_HT_CAP_SUP_WIDTH_20_40 ≠ 0 → x.1.capSet .ht20mhz = false) :
    event.PureHt htCapInfo ↔ (event.caps x).1.capSet .noHt = false ∧ (event.caps x).1.capSet .noHtGf = false ∧
      (htCapInfo &&& IEEE80211_HT_CAP_SUP_WIDTH_20_40 ≠ 0 → (event.caps x).1.capSet .ht20mhz = false) := by
  cases event with
  | join psta flags capability staCapInfo =>
    let info : StaInfo := { x.1 with flags := flags, capability := capability, htCapInfo := staCapInfo }
    let y := capUpdate .noShortSlotTime (!(info.capability &&& WLAN_CAPABILITY_SHORT_SLOT_TIME != 0))
      (capUpdate .nonerp (info.hasFlag WLAN_STA_NONERP)
        (capUpdate .noShortPreamble (!info.hasFlag WLAN_STA_SHORT_PREAMBLE) (info, x.2)))
    have hframe : CapFrame (info, x.2) y :=
      ((CapFrame.update _ _ _).trans (CapFrame.update _ _ _)).trans (CapFrame.update _ _ _)
    have hkeep : ∀ cap, cap ≠ .noShortPreamble → cap ≠ .nonerp → cap ≠ .noShortSlotTime →
        y.1.capSet cap = x.1.capSet cap := by
      intro cap h1 h2 h3
      rw [capUpdate_capSet, if_neg h3, capUpdate_capSet, if_neg h2, capUpdate_capSet, if_neg h1]
      cases cap <;> rfl
    obtain ⟨h1, h2, h3, -, -⟩ := htCapJoin_capSet y
    have hcaps : caps (.join psta flags capability staCapInfo) x = htCapJoin y := rfl
    have hflag : y.1.hasFlag WLAN_STA_HT = (flags &&& WLAN_STA_HT != 0) := by
      unfold StaInfo.hasFlag
      rw [hframe.flags]
    have hinfo : y.1.htCapInfo = staCapInfo := hframe.htCapInfo
    rw [hflag] at h1 h2 h3
    rw [hkeep _ (by decide) (by decide) (by decide), hinfo, hgf, Bool.false_or] at h2
    rw [hkeep _ (by decide) (by decide) (by decide), hinfo] at h3
    rw [hcaps, h1, h2, h3]
    have hht : (flags &&& WLAN_STA_HT ≠ 0) = ((flags &&& WLAN_STA_HT != 0) = true) := propext bne_iff_ne.symm
    unfold PureHt
    dsimp only
    rw [hht]
    cases flags &&& WLAN_STA_HT != 0 with
    | false => simp
    | true =>
      by_cases hcell : htCapInfo &&& IEEE80211_HT_CAP_SUP_WIDTH_20_40 = 0
      · simp [hcell]
      · simp [hcell, hwidth hcell]
  | leave psta =>
    have hnone := capLeave_noCaps x
    exact iff_of_true trivial ⟨hnone _, hnone _, fun _ => hnone _⟩

end CapEvent

/-! ## One step -/

section Step
variable (rtwMalloc : ℕ → Bool) {fixed : List UInt8} {pre post : List Tlv}

namespace CapBcn

/-- Both handlers: the counts, what 802.11n adds to them, and the operation mode. -/
theorem handler_bcn {x : CapBcn} {data : UInt8} (g : CapState → CapState) (hg : ∀ y, CapFrame y (g y))
    (hht : x.caps.2.htOption = true) (above11b noPreamble nonerp noSlot : Bool)
    (h : ErpBcn fixed pre post data x.bcn) (hpre : ∀ e ∈ pre, e.id ≠ _ERPINFO_IE_)
    (hright : ErpRight (x.caps.2.numSta .nonerp) (x.caps.2.numSta .noShortPreamble) data)
    (hn : Counted .nonerp x.caps) (hp : Counted .noShortPreamble x.caps) :
    let y := x.countBasic rtwMalloc above11b noPreamble nonerp noSlot
    let z := ({ y with caps := g y.caps } : CapBcn).htOperation rtwMalloc
    ∃ data', ErpBcn fixed pre post data' z.bcn ∧
      (ErpRight (recount nonerp (x.caps.1.capSet .nonerp) (x.caps.2.numSta .nonerp))
        (recount noPreamble (x.caps.1.capSet .noShortPreamble) (x.caps.2.numSta .noShortPreamble)) data' ↔
        (Crosses noPreamble (x.caps.1.capSet .noShortPreamble) (x.caps.2.numSta .noShortPreamble) →
          Crosses nonerp (x.caps.1.capSet .nonerp) (x.caps.2.numSta .nonerp))) ∧
      z.bcn.htOpMode = x.bcn.htOpMode ∧ z.bcn.htCapInfo = x.bcn.htCapInfo := by
  intro y z
  have hframe : CapFrame x.caps y.caps := by
    have hcaps : y.caps = capUpdate .noShortSlotTime noSlot
        (capUpdate .nonerp nonerp (capUpdate .noShortPreamble noPreamble x.caps)) := by
      show (countBasic rtwMalloc above11b noPreamble nonerp noSlot x).caps = _
      unfold countBasic
      dsimp only
      rw [count_caps, count_caps, count_caps]
    rw [hcaps]
    exact ((CapFrame.update _ _ _).trans (CapFrame.update _ _ _)).trans (CapFrame.update _ _ _)
  have hz : z.bcn = y.bcn := htOperation_bcn rtwMalloc ((hframe.trans (hg y.caps)).htOption.trans hht)
  rw [hz]
  exact countBasic_erp rtwMalloc above11b noPreamble nonerp noSlot h hpre hright hn hp

end CapBcn

/-- On the counters an event is what `bss_cap_update_on_sta_join` and `bss_cap_update_on_sta_leave` are
there. -/
theorem step_ap (s : BcnAp) (event : CapEvent) :
    (s.step rtwMalloc event).ap = s.ap.onCaps event.psta event.caps := by
  cases event with
  | join psta flags capability htCapInfo =>
    rw [step_join_ap]
    unfold bssCapUpdateOnStaJoin RtwAdapter.onCaps BcnAp.withCapability
    dsimp only
    rw [staInfo_setInfo_self, setInfo_setInfo]
    rfl
  | leave psta => exact step_leave_ap rtwMalloc s psta

theorem recount_pos (lacking : Bool) : 0 < recount lacking false 0 ↔ lacking = true := by
  cases lacking <;> decide

theorem htMode_pure (mlme : MlmePriv) (htCapInfo : UInt16) :
    htMode mlme htCapInfo = OP_MODE_PURE ↔ ¬ 0 < mlme.numStaNoHt ∧ ¬ 0 < mlme.numStaHtNoGf ∧
      (htCapInfo &&& IEEE80211_HT_CAP_SUP_WIDTH_20_40 ≠ 0 → ¬ 0 < mlme.numStaHt20mhz) := by
  unfold htMode
  split
  next h =>
    refine iff_of_false (by decide) ?_
    rintro ⟨h1, h2, -⟩
    exact h.elim h1 h2
  next h =>
    split
    next hwidth =>
      refine iff_of_false (by decide) ?_
      rintro ⟨-, -, h3⟩
      exact h3 hwidth.1 hwidth.2
    next hwidth => exact iff_of_true rfl ⟨fun h1 => h (.inl h1), fun h2 => h (.inr h2), fun h3 h4 => hwidth ⟨h3, h4⟩⟩

/-- What holds along the runs that the beacon follows. -/
structure BcnInv (fixed : List UInt8) (pre post : List Tlv) (s : BcnAp) : Prop where
  counts : CapCounts s.ap
  htOption : s.ap.mlmepriv.htOption = true
  noHt : s.ap.mlmepriv.numSta .noHt = 0
  noHtGf : s.ap.mlmepriv.numSta .noHtGf = 0
  ht20mhz : s.bcn.htCapInfo &&& IEEE80211_HT_CAP_SUP_WIDTH_20_40 ≠ 0 → s.ap.mlmepriv.numSta .ht20mhz = 0
  tells : BcnTells fixed pre post s

namespace BcnInv
variable {s : BcnAp} (inv : BcnInv fixed pre post s) (event : CapEvent)
include inv

theorem step_counts : CapCounts (s.step rtwMalloc event).ap := by
  rw [step_ap]
  refine inv.counts.move event.psta (fun q hq => staInfo_setInfo_other s.ap event.psta q _ hq) ?_
  have hself : (s.ap.onCaps event.psta event.caps).staInfo event.psta =
      (event.caps (s.ap.staInfo event.psta, s.ap.mlmepriv)).1 := staInfo_setInfo_self s.ap event.psta _
  rw [hself]
  exact event.caps_moved (s.ap.staInfo event.psta, s.ap.mlmepriv)

omit inv in
theorem step_numSta (cap : BssCap) :
    (s.step rtwMalloc event).ap.mlmepriv.numSta cap =
      recount ((event.caps (s.ap.staInfo event.psta, s.ap.mlmepriv)).1.capSet cap)
        ((s.ap.staInfo event.psta).capSet cap) (s.ap.mlmepriv.numSta cap) := by
  rw [step_ap]
  exact (event.caps_moved (s.ap.staInfo event.psta, s.ap.mlmepriv)).numSta cap

theorem step_htOption : (s.step rtwMalloc event).ap.mlmepriv.htOption = true := by
  rw [step_ap]
  show (event.caps (s.ap.staInfo event.psta, s.ap.mlmepriv)).2.htOption = true
  rw [← inv.htOption]
  cases event with
  | join psta flags capability htCapInfo =>
    exact ((((CapFrame.update _ _ _).trans (CapFrame.update _ _ _)).trans (CapFrame.update _ _ _)).trans
      (CapFrame.htJoin _)).htOption
  | leave psta =>
    exact ((((((CapFrame.unmark _ _).trans (CapFrame.unmark _ _)).trans (CapFrame.unmark _ _)).trans
      (CapFrame.unmark _ _)).trans (CapFrame.unmark _ _)).trans (CapFrame.unmark _ _)).htOption

theorem mode_pure : s.bcn.htOpMode &&& HT_INFO_OPERATION_MODE_OP_MODE_MASK = OP_MODE_PURE := by
  have hht : s.ap.mlmepriv.numStaNoHt = 0 := inv.noHt
  have hgf : s.ap.mlmepriv.numStaHtNoGf = 0 := inv.noHtGf
  rw [inv.tells.mode, htMode_pure]
  refine ⟨by omega, by omega, fun hcell => ?_⟩
  have hwidth : s.ap.mlmepriv.numStaHt20mhz = 0 := inv.ht20mhz hcell
  omega

theorem step_erp (hpre : ∀ e ∈ pre, e.id ≠ _ERPINFO_IE_) : ∃ data, ErpBcn fixed pre post data (s.step rtwMalloc event).bcn ∧
    (ErpRight (s.step rtwMalloc event).ap.mlmepriv.numStaNonErp
        (s.step rtwMalloc event).ap.mlmepriv.numStaNoShortPreamble data ↔
      (Crosses event.lacksPreamble ((s.ap.staInfo event.psta).capSet .noShortPreamble)
          s.ap.mlmepriv.numStaNoShortPreamble →
        Crosses event.lacksErp ((s.ap.staInfo event.psta).capSet .nonerp) s.ap.mlmepriv.numStaNonErp)) ∧
    (s.step rtwMalloc event).bcn.htOpMode = s.bcn.htOpMode ∧
    (s.step rtwMalloc event).bcn.htCapInfo = s.bcn.htCapInfo := by
  obtain ⟨data, herp, hright⟩ := inv.tells.erp
  have hn := step_numSta rtwMalloc (s := s) event .nonerp
  have hp := step_numSta rtwMalloc (s := s) event .noShortPreamble
  rw [event.caps_erp] at hn
  rw [event.caps_preamble] at hp
  have hnum : (s.step rtwMalloc event).ap.mlmepriv.numStaNonErp = _ := hn
  have hnum' : (s.step rtwMalloc event).ap.mlmepriv.numStaNoShortPreamble = _ := hp
  rw [hnum, hnum']
  cases event with
  | join psta flags capability htCapInfo =>
    let info : StaInfo :=
      { s.ap.staInfo psta with flags := flags, capability := capability, htCapInfo := htCapInfo }
    have hstep : (s.step rtwMalloc (.join psta flags capability htCapInfo)).bcn =
        (CapBcn.join rtwMalloc { caps := (info, s.ap.mlmepriv), bcn := s.bcn }).bcn := by
      unfold BcnAp.step BcnAp.onCaps BcnAp.withCapability
      dsimp only
      rw [staInfo_setInfo_self]
      rfl
    rw [hstep]
    exact CapBcn.handler_bcn rtwMalloc (x := { caps := (info, s.ap.mlmepriv), bcn := s.bcn }) htCapJoin CapFrame.htJoin
      inv.htOption _ _ _ _ herp hpre hright (inv.counts.counted .nonerp psta) (inv.counts.counted .noShortPreamble psta)
  | leave psta =>
    exact CapBcn.handler_bcn rtwMalloc (x := { caps := (s.ap.staInfo psta, s.ap.mlmepriv), bcn := s.bcn })
      (fun y => capUnmark .ht20mhz (capUnmark .noHt (capUnmark .noHtGf y)))
      (fun y => ((CapFrame.unmark _ y).trans (CapFrame.unmark _ _)).trans (CapFrame.unmark _ _)) inv.htOption _ _ _ _
      herp hpre hright (inv.counts.counted .nonerp psta) (inv.counts.counted .noShortPreamble psta)

theorem step_htMode :
    htMode (s.step rtwMalloc event).ap.mlmepriv s.bcn.htCapInfo = OP_MODE_PURE ↔ event.PureHt s.bcn.htCapInfo := by
  have hgf := inv.counts.clear .noHtGf inv.noHtGf event.psta
  have hht := inv.counts.clear .noHt inv.noHt event.psta
  have hnoHt := step_numSta rtwMalloc (s := s) event .noHt
  have hnoHtGf := step_numSta rtwMalloc (s := s) event .noHtGf
  have hwidth := step_numSta rtwMalloc (s := s) event .ht20mhz
  rw [hht] at hnoHt
  rw [hgf] at hnoHtGf
  rw [htMode_pure, event.caps_ht (s.ap.staInfo event.psta, s.ap.mlmepriv) hgf s.bcn.htCapInfo
    fun hcell => inv.counts.clear .ht20mhz (inv.ht20mhz hcell) event.psta]
  refine and_congr ?_ (and_congr ?_ (forall_congr' fun hcell => ?_))
  · show ¬ 0 < (s.step rtwMalloc event).ap.mlmepriv.numSta .noHt ↔ _
    rw [hnoHt, inv.noHt, recount_pos, Bool.not_eq_true]
  · show ¬ 0 < (s.step rtwMalloc event).ap.mlmepriv.numSta .noHtGf ↔ _
    rw [hnoHtGf, inv.noHtGf, recount_pos, Bool.not_eq_true]
  · show ¬ 0 < (s.step rtwMalloc event).ap.mlmepriv.numSta .ht20mhz ↔ _
    have hzero : s.ap.mlmepriv.numSta .ht20mhz = 0 := inv.ht20mhz hcell
    rw [hwidth, inv.counts.clear .ht20mhz hzero event.psta, hzero, recount_pos, Bool.not_eq_true]

/-- **A step keeps the beacon right exactly when it is one that the beacon follows.** -/
theorem step_tells (hpre : ∀ e ∈ pre, e.id ≠ _ERPINFO_IE_) :
    BcnTells fixed pre post (s.step rtwMalloc event) ↔ KeepsBcn s event := by
  obtain ⟨data, herp, hiff, hmode, hinfo⟩ := inv.step_erp rtwMalloc event hpre
  constructor
  · intro htells
    obtain ⟨data', herp', hright⟩ := htells.erp
    obtain rfl : data = data' := herp.byte.symm.trans herp'.byte
    refine ⟨(inv.step_htMode rtwMalloc event).mp ?_, hiff.mp hright⟩
    rw [← hinfo, ← htells.mode, hmode]
    exact inv.mode_pure
  · rintro ⟨hht, hcross⟩
    refine ⟨⟨data, herp, hiff.mpr hcross⟩, ?_⟩
    rw [hmode, hinfo, (inv.step_htMode rtwMalloc event).mpr hht]
    exact inv.mode_pure

theorem step_inv (hpre : ∀ e ∈ pre, e.id ≠ _ERPINFO_IE_) (keeps : KeepsBcn s event) :
    BcnInv fixed pre post (s.step rtwMalloc event) := by
  obtain ⟨-, -, -, -, hinfo⟩ := inv.step_erp rtwMalloc event hpre
  have hcounts := inv.step_counts rtwMalloc event
  have hpure := (htMode_pure _ _).mp ((inv.step_htMode rtwMalloc event).mpr keeps.1)
  have hnonneg : ∀ cap, 0 ≤ (s.step rtwMalloc event).ap.mlmepriv.numSta cap := by
    intro cap
    rw [hcounts cap]
    exact Int.natCast_nonneg _
  rw [← hinfo] at hpure
  obtain ⟨hht, hgf, hwidth⟩ := hpure
  exact ⟨hcounts, inv.step_htOption rtwMalloc event, (hnonneg .noHt).antisymm' (not_lt.mp hht),
    (hnonneg .noHtGf).antisymm' (not_lt.mp hgf), fun hcell => (hnonneg .ht20mhz).antisymm' (not_lt.mp (hwidth hcell)),
    (inv.step_tells rtwMalloc event hpre).mpr keeps⟩

end BcnInv

/-! ## Runs -/

namespace BcnAp

def run (s : BcnAp) : List CapEvent → BcnAp
  | [] => s
  | event :: events => (s.step rtwMalloc event).run events

/-- Every step of the run satisfies the condition in the state it is taken from. -/
def Along (good : BcnAp → CapEvent → Prop) (s : BcnAp) : List CapEvent → Prop
  | [] => True
  | event :: events => good s event ∧ (s.step rtwMalloc event).Along good events

end BcnAp

/-- The driver with no station counted, 802.11n on, and a beacon with an ERP element. -/
structure BcnStart (fixed : List UInt8) (pre post : List Tlv) (s : BcnAp) : Prop where
  numSta : ∀ cap, s.ap.mlmepriv.numSta cap = 0
  noCaps : ∀ psta, (s.ap.staInfo psta).noCaps
  htOption : s.ap.mlmepriv.htOption = true
  above11b : WIRELESS_11B < s.bcn.curWirelessMode
  beacon : ∃ data, ErpBcn fixed pre post data s.bcn
  first : ∀ e ∈ pre, e.id ≠ _ERPINFO_IE_

theorem BcnStart.inv {s : BcnAp} (start : BcnStart fixed pre post s) (tells : BcnTells fixed pre post s) :
    BcnInv fixed pre post s where
  counts cap := by
    have hnone : flagged s.ap cap = [] := by
      rw [flagged, List.filter_eq_nil_iff]
      intro p _
      rw [start.noCaps p cap]
      exact Bool.false_ne_true
    rw [start.numSta cap, hnone]
    rfl
  htOption := start.htOption
  noHt := start.numSta .noHt
  noHtGf := start.numSta .noHtGf
  ht20mhz _ := start.numSta .ht20mhz
  tells := tells

/-- From a state of the invariant the beacon is right behind every part of the run exactly when the run has
only such steps. -/
theorem BcnInv.run {s : BcnAp} (inv : BcnInv fixed pre post s) (hpre : ∀ e ∈ pre, e.id ≠ _ERPINFO_IE_)
    (events : List CapEvent) :
    (∀ part, part <+: events → BcnTells fixed pre post (s.run rtwMalloc part)) ↔
      s.Along rtwMalloc KeepsBcn events := by
  induction events generalizing s with
  | nil =>
    refine iff_of_true (fun part hpart => ?_) trivial
    rw [List.prefix_nil.mp hpart]
    exact inv.tells
  | cons event events ih =>
    constructor
    · intro hall
      have hstep := hall [event] (by simp)
      have hkeeps := (inv.step_tells rtwMalloc event hpre).mp hstep
      refine ⟨hkeeps, (ih (inv.step_inv rtwMalloc event hpre hkeeps)).mp fun part hpart => ?_⟩
      exact hall (event :: part) (List.cons_prefix_cons.mpr ⟨rfl, hpart⟩)
    · rintro ⟨hkeeps, halong⟩ part hpart
      cases part with
      | nil => exact inv.tells
      | cons event' part =>
        obtain ⟨rfl, hpart'⟩ := List.cons_prefix_cons.mp hpart
        exact (ih (inv.step_inv rtwMalloc event' hpre hkeeps)).mpr halong part hpart'

/-- **The protection fields of the beacon follow membership** in exactly the runs that start right and whose
steps all keep them right. -/
theorem beacon_follows_iff (rtwMalloc : ℕ → Bool) (fixed : List UInt8) (pre post : List Tlv) (s : BcnAp)
    (start : BcnStart fixed pre post s) (events : List CapEvent) :
    (∀ part, part <+: events → BcnTells fixed pre post (s.run rtwMalloc part)) ↔
      BcnTells fixed pre post s ∧ s.Along rtwMalloc KeepsBcn events := by
  constructor
  · intro hall
    have htells : BcnTells fixed pre post s := hall [] List.nil_prefix
    exact ⟨htells, (BcnInv.run rtwMalloc (start.inv htells) start.first events).mp hall⟩
  · rintro ⟨htells, halong⟩
    exact (BcnInv.run rtwMalloc (start.inv htells) start.first events).mpr halong

end Step

/-! ## A cell and two stations -/

def erpCell : BcnAp where
  ap := { mlmepriv := { htOption := true } }
  bcn :=
    { network :=
        { ies := putBytes (fun _ => 0) 0 (List.replicate 12 0 ++ encodeAll (sampleBeacon ++ [erpElement 0]))
          ieLength := 26 }
      bstartBss := true
      curWirelessMode := 11
      erpEnable := true
      htCapInfo := 0x0002 }

theorem erpCell_erp : ErpBcn (List.replicate 12 0) sampleBeacon [] 0 erpCell.bcn where
  network := { fixedLength := rfl, bytes := by decide, fits := by decide }
  erpEnable := rfl
  bstartBss := rfl

theorem erpCell_start : BcnStart (List.replicate 12 0) sampleBeacon [] erpCell where
  numSta cap := by cases cap <;> rfl
  noCaps psta cap := by cases cap <;> rfl
  htOption := rfl
  above11b := by decide
  beacon := ⟨0, erpCell_erp⟩
  first := by decide

theorem erpCell_tells : BcnTells (List.replicate 12 0) sampleBeacon [] erpCell where
  erp := ⟨0, erpCell_erp, by decide, by decide, by decide⟩
  mode := by decide

/-- A station with greenfield, 40 MHz and short preamble, but without ERP. -/
theorem beacon_follows_erp :
    BcnTells (List.replicate 12 0) sampleBeacon []
      (erpCell.run (fun _ => true) [.join 1 0x80000880 0x0020 0x0012]) :=
  (beacon_follows_iff (fun _ => true) (List.replicate 12 0) sampleBeacon [] erpCell erpCell_start
    [.join 1 0x80000880 0x0020 0x0012]).mpr
    ⟨erpCell_tells, ⟨⟨by decide, by decide, by decide⟩, by decide⟩, trivial⟩ _ (List.prefix_refl _)

/-- A station without short preamble joins, and the preamble bit stays clear. -/
theorem beacon_stale : ¬ ∀ (rtwMalloc : ℕ → Bool) (fixed : List UInt8) (pre post : List Tlv) (s : BcnAp),
    BcnStart fixed pre post s → BcnTells fixed pre post s → ∀ events : List CapEvent,
      BcnTells fixed pre post (s.run rtwMalloc events) := by
  intro hall
  have htells := hall (fun _ => true) _ _ _ erpCell erpCell_start erpCell_tells [.join 1 0x00000800 0 0x0012]
  have hinv := erpCell_start.inv erpCell_tells
  have hkeeps := (hinv.step_tells (fun _ => true) (.join 1 0x00000800 0 0x0012) erpCell_start.first).mp htells
  exact absurd hkeeps.2 (by decide)

end Rtl8723au
