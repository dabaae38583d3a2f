import Rtl8723au.Ap.BssCounters
import Rtl8723au.Ap.BcnTim

/-! The protection fields of the beacon, of `core/rtw_ap.c`: `update_beacon`, `rtw_ht_operation_update`, and
`bss_cap_update_on_sta_join` and `bss_cap_update_on_sta_leave` with the updates they call for. The WPS element is
left out. -/
namespace Rtl8723au
open Mem Security Tlv
set_option autoImplicit false

def _ERPINFO_IE_ : UInt8 := 42
def _HT_CAPABILITY_IE_ : UInt8 := 45
def _HT_ADD_INFO_IE_ : UInt8 := 61

def WIRELESS_11B : ℕ := 1

def RTW_ERP_INFO_NON_ERP_PRESENT : UInt8 := 1
def RTW_ERP_INFO_USE_PROTECTION : UInt8 := 2
def RTW_ERP_INFO_BARKER_PREAMBLE_MODE : UInt8 := 4

def HT_INFO_OPERATION_MODE_OP_MODE_MASK : UInt16 := 0x0003
def HT_INFO_OPERATION_MODE_NON_GF_DEVS_PRESENT : UInt16 := 0x0004
def HT_INFO_OPERATION_MODE_NON_HT_STA_PRESENT : UInt16 := 0x0010

def OP_MODE_PURE : UInt16 := 0
def OP_MODE_MAY_BE_LEGACY_STAS : UInt16 := 1
def OP_MODE_20MHZ_HT_STA_ASSOCED : UInt16 := 2
def OP_MODE_MIXED : UInt16 := 3

/-! ## `update_beacon` -/

/-- The beacon with the members of `mlme_ext_priv`, `mlme_ext_info`, `sta_priv` and the 802.11n part of
`mlme_priv` that its updates read and write. -/
structure BcnInfo where
  network : BcnNetwork
  bstartBss : Bool := false
  updateBcn : Bool := false
  curWirelessMode : ℕ := 0
  erpEnable : Bool := false
  erpIe : UInt8 := 0
  timBitmap : BitVec 16 := 0
  htOpMode : UInt16 := 0
  olbcHt : Bool := false
  htCapInfo : UInt16 := 0

/-- `ERP_IE_handler`. -/
def erpIeHandler (length : ℕ) (data : UInt8) (bcn : BcnInfo) : BcnInfo :=
  if 1 < length then bcn
  else { bcn with erpEnable := true, erpIe := if length = 1 then data else bcn.erpIe }

def erpInfo (mlme : MlmePriv) (data : UInt8) : UInt8 :=
  let protection := RTW_ERP_INFO_NON_ERP_PRESENT ||| RTW_ERP_INFO_USE_PROTECTION
  let data := if mlme.numStaNonErp = 1 then data ||| protection else data &&& ~~~protection
  if 0 < mlme.numStaNoShortPreamble then data ||| RTW_ERP_INFO_BARKER_PREAMBLE_MODE
  else data &&& ~~~RTW_ERP_INFO_BARKER_PREAMBLE_MODE

/-- `update_bcn_erpinfo_ie`. -/
def updateBcnErpinfoIe (mlme : MlmePriv) (bcn : BcnInfo) : BcnInfo :=
  if !bcn.erpEnable then bcn
  else
    let ies := bcn.network.ies
    let limit : ℤ := bcn.network.ieLength - _FIXED_IE_LENGTH_
    match ((rtwGetIe _FIXED_IE_LENGTH_ _ERPINFO_IE_ limit).run ies).val with
    | none => bcn
    | some (p, len) =>
      if len = 0 then bcn
      else
        let data := erpInfo mlme (ies (p + 2))
        erpIeHandler len data { bcn with network := { bcn.network with ies := Function.update ies (p + 2) data } }

section Update
variable (rtwMalloc : ℕ → Bool)

/-- `update_beacon`; the updates of the other elements it knows are empty. -/
def updateBeacon (mlme : MlmePriv) (ieId : UInt8) (bcn : BcnInfo) : BcnInfo :=
  if !bcn.bstartBss then bcn
  else
    let bcn :=
      if ieId = _TIM_IE_ then { bcn with network := updateBcntim rtwMalloc bcn.timBitmap bcn.network }
      else if ieId = _ERPINFO_IE_ then updateBcnErpinfoIe mlme bcn
      else bcn
    { bcn with updateBcn := true }

/-! ## `rtw_ht_operation_update` -/

/-- Set or clear a bit of `ht_op_mode` after what is present now; whether it changed. -/
def htOpModeBit (bit : UInt16) (present : Bool) (mode : UInt16) : UInt16 × ℕ :=
  if mode &&& bit = 0 ∧ present then (mode ||| bit, 1)
  else if mode &&& bit ≠ 0 ∧ !present then (mode &&& ~~~bit, 1)
  else (mode, 0)

/-- The beacon and `op_mode_changes`. -/
def rtwHtOperationUpdate (mlme : MlmePriv) (bcn : BcnInfo) : BcnInfo × ℕ :=
  if mlme.htOption then (bcn, 0)
  else
    let (mode, gf) := htOpModeBit HT_INFO_OPERATION_MODE_NON_GF_DEVS_PRESENT (mlme.numStaHtNoGf != 0) bcn.htOpMode
    let (mode, noHt) :=
      htOpModeBit HT_INFO_OPERATION_MODE_NON_HT_STA_PRESENT (mlme.numStaNoHt != 0 || bcn.olbcHt) mode
    let newOpMode :=
      if mlme.numStaNoHt ≠ 0 ∨ mode &&& HT_INFO_OPERATION_MODE_NON_GF_DEVS_PRESENT ≠ 0 then OP_MODE_MIXED
      else if bcn.htCapInfo &&& IEEE80211_HT_CAP_SUP_WIDTH_20_40 ≠ 0 ∧ mlme.numStaHt20mhz ≠ 0 then
        OP_MODE_20MHZ_HT_STA_ASSOCED
      else if bcn.olbcHt then OP_MODE_MAY_BE_LEGACY_STAS
      else OP_MODE_PURE
    if mode &&& HT_INFO_OPERATION_MODE_OP_MODE_MASK ≠ newOpMode then
      ({ bcn with htOpMode := mode &&& ~~~HT_INFO_OPERATION_MODE_OP_MODE_MASK ||| newOpMode }, gf + noHt + 1)
    else ({ bcn with htOpMode := mode }, gf + noHt)

/-! ## Joining and leaving -/

/-- A station and its cell with the beacon. -/
structure CapBcn where
  caps : CapState
  bcn : BcnInfo
  beaconUpdated : Bool := false

namespace CapBcn

def update (ieId : UInt8) (x : CapBcn) : CapBcn := { x with bcn := updateBeacon rtwMalloc x.caps.2 ieId x.bcn }

/-- Count the station, or not, and update the beacon when it is the first or was the last. -/
def count (cap : BssCap) (ieId : UInt8) (gate lacking : Bool) (x : CapBcn) : CapBcn :=
  if x.caps.1.capSet cap = lacking then x
  else
    let x := { x with caps := capUpdate cap lacking x.caps }
    if gate && x.caps.2.numSta cap == (if lacking then 1 else 0) then
      { x.update rtwMalloc ieId with beaconUpdated := true }
    else x

/-- The end of both: two updates when `rtw_ht_operation_update` changed something. -/
def htOperation (x : CapBcn) : CapBcn :=
  let (bcn, changes) := rtwHtOperationUpdate x.caps.2 x.bcn
  let x := { x with bcn := bcn }
  if 0 < changes then (x.update rtwMalloc _HT_CAPABILITY_IE_).update rtwMalloc _HT_ADD_INFO_IE_ else x

/-- `bss_cap_update_on_sta_join`. -/
def join (x : CapBcn) : CapBcn :=
  let psta := x.caps.1
  let above11b := decide (WIRELESS_11B < x.bcn.curWirelessMode)
  let x := x.count rtwMalloc .noShortPreamble 0xff above11b (!psta.hasFlag WLAN_STA_SHORT_PREAMBLE)
  let x := x.count rtwMalloc .nonerp _ERPINFO_IE_ true (psta.hasFlag WLAN_STA_NONERP)
  let x := x.count rtwMalloc .noShortSlotTime 0xff above11b
    (!(psta.capability &&& WLAN_CAPABILITY_SHORT_SLOT_TIME != 0))
  let x := { x with caps := htCapJoin x.caps }
  x.htOperation rtwMalloc

/-- `bss_cap_update_on_sta_leave`. -/
def leave (x : CapBcn) : CapBcn :=
  let above11b := decide (WIRELESS_11B < x.bcn.curWirelessMode)
  let x := x.count rtwMalloc .noShortPreamble 0xff above11b false
  let x := x.count rtwMalloc .nonerp _ERPINFO_IE_ true false
  let x := x.count rtwMalloc .noShortSlotTime 0xff above11b false
  let x := { x with caps := capUnmark .ht20mhz (capUnmark .noHt (capUnmark .noHtGf x.caps)) }
  x.htOperation rtwMalloc

end CapBcn

/-! ## The access point -/

/-- The driver with its beacon. -/
structure BcnAp where
  ap : RtwAdapter
  bcn : BcnInfo

/-- What moves the counters. A station joins with the capabilities its request gave it. -/
inductive CapEvent where
  | join (psta : StaId) (flags : BitVec 32) (capability htCapInfo : UInt16)
  | leave (psta : StaId)

namespace BcnAp

def onCaps (s : BcnAp) (psta : StaId) (f : CapBcn → CapBcn) : BcnAp :=
  let x := f { caps := (s.ap.staInfo psta, s.ap.mlmepriv), bcn := s.bcn }
  { ap := { s.ap.setInfo psta x.caps.1 with mlmepriv := x.caps.2 }, bcn := x.bcn }

def withCapability (s : BcnAp) (psta : StaId) (flags : BitVec 32) (capability htCapInfo : UInt16) : BcnAp :=
  let info := { s.ap.staInfo psta with flags := flags, capability := capability, htCapInfo := htCapInfo }
  { s with ap := s.ap.setInfo psta info }

def step (s : BcnAp) : CapEvent → BcnAp
  | .join psta flags capability htCapInfo =>
    (s.withCapability psta flags capability htCapInfo).onCaps psta (CapBcn.join rtwMalloc)
  | .leave psta => s.onCaps psta (CapBcn.leave rtwMalloc)

end BcnAp

/-! ## The counters move as before -/

namespace CapBcn
variable (cap : BssCap) (ieId : UInt8) (gate lacking : Bool) (x : CapBcn)

theorem capUpdate_same (x : CapState) (h : x.1.capSet cap = lacking) : capUpdate cap lacking x = x := by
  unfold capUpdate capMark capUnmark
  rw [h]
  cases lacking <;> rfl

theorem count_caps : (x.count rtwMalloc cap ieId gate lacking).caps = capUpdate cap lacking x.caps := by
  unfold count
  split
  next h => exact (capUpdate_same cap lacking x.caps h).symm
  next => exact (apply_ite CapBcn.caps _ _ _).trans (ite_self _)

theorem htOperation_caps : (x.htOperation rtwMalloc).caps = x.caps := by
  unfold htOperation
  dsimp only
  split <;> rfl

/-- `bss_cap_update_on_sta_join` does to the counters what `capJoin` does. -/
theorem join_caps : (x.join rtwMalloc).caps = capJoin x.caps := by
  unfold join capJoin
  dsimp only
  rw [htOperation_caps, count_caps, count_caps, count_caps]

theorem leave_caps : (x.leave rtwMalloc).caps = capLeave x.caps := by
  unfold leave capLeave
  dsimp only
  rw [htOperation_caps, count_caps, count_caps, count_caps]
  rfl

end CapBcn

theorem step_join_ap (s : BcnAp) (psta : StaId) (flags : BitVec 32) (capability htCapInfo : UInt16) :
    (s.step rtwMalloc (.join psta flags capability htCapInfo)).ap =
      bssCapUpdateOnStaJoin (s.withCapability psta flags capability htCapInfo).ap psta := by
  unfold BcnAp.step BcnAp.onCaps bssCapUpdateOnStaJoin RtwAdapter.onCaps
  dsimp only
  rw [CapBcn.join_caps]

theorem step_leave_ap (s : BcnAp) (psta : StaId) :
    (s.step rtwMalloc (.leave psta)).ap = bssCapUpdateOnStaLeave s.ap psta := by
  unfold BcnAp.step BcnAp.onCaps bssCapUpdateOnStaLeave RtwAdapter.onCaps
  dsimp only
  rw [CapBcn.leave_caps]

end Update

/-! ## The flags afterwards -/

theorem capMark_capSet (c c' : BssCap) (x : CapState) :
    (capMark c x).1.capSet c' = if c' = c then true else x.1.capSet c' := by
  unfold capMark
  split
  next h =>
    split
    next e => rw [e, h]
    next => rfl
  next => exact withCap_capSet x.1 c c' true

theorem capUpdate_capSet (c c' : BssCap) (lacking : Bool) (x : CapState) :
    (capUpdate c lacking x).1.capSet c' = if c' = c then lacking else x.1.capSet c' := by
  unfold capUpdate
  cases lacking with
  | true => exact capMark_capSet c c' x
  | false => exact capUnmark_capSet c c' x

theorem CapMoved.numSta {x y : CapState} (h : CapMoved x y) (cap : BssCap) :
    y.2.numSta cap = x.2.numSta cap - (if x.1.capSet cap then 1 else 0) + if y.1.capSet cap then 1 else 0 := by
  have hbalance := h.balance cap
  omega

end Rtl8723au
