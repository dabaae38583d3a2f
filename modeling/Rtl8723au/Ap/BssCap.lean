import Rtl8723au.Ap.StaMgt

/-! The capabilities of the cell: `bss_cap_update_on_sta_join`, `bss_cap_update_on_sta_leave` and the
functions of `core/rtw_ap.c` that call them. The beacon they update is left out. -/
namespace Rtl8723au
set_option autoImplicit false

/-! ## The counted capabilities -/

/-- The six capabilities, named after their flag in `struct sta_info`. -/
inductive BssCap where
  | noShortPreamble
  | nonerp
  | noShortSlotTime
  | noHt
  | noHtGf
  | ht20mhz
  deriving DecidableEq, Repr

namespace StaInfo

def capSet (psta : StaInfo) : BssCap → Bool
  | .noShortPreamble => psta.noShortPreambleSet
  | .nonerp => psta.nonerpSet
  | .noShortSlotTime => psta.noShortSlotTimeSet
  | .noHt => psta.noHtSet
  | .noHtGf => psta.noHtGfSet
  | .ht20mhz => psta.ht20mhzSet

def withCap (psta : StaInfo) (cap : BssCap) (on : Bool) : StaInfo :=
  match cap with
  | .noShortPreamble => { psta with noShortPreambleSet := on }
  | .nonerp => { psta with nonerpSet := on }
  | .noShortSlotTime => { psta with noShortSlotTimeSet := on }
  | .noHt => { psta with noHtSet := on }
  | .noHtGf => { psta with noHtGfSet := on }
  | .ht20mhz => { psta with ht20mhzSet := on }

end StaInfo

namespace MlmePriv

def numSta (pmlmepriv : MlmePriv) : BssCap → ℤ
  | .noShortPreamble => pmlmepriv.numStaNoShortPreamble
  | .nonerp => pmlmepriv.numStaNonErp
  | .noShortSlotTime => pmlmepriv.numStaNoShortSlotTime
  | .noHt => pmlmepriv.numStaNoHt
  | .noHtGf => pmlmepriv.numStaHtNoGf
  | .ht20mhz => pmlmepriv.numStaHt20mhz

def addNumSta (pmlmepriv : MlmePriv) (cap : BssCap) (d : ℤ) : MlmePriv :=
  match cap with
  | .noShortPreamble => { pmlmepriv with numStaNoShortPreamble := pmlmepriv.numStaNoShortPreamble + d }
  | .nonerp => { pmlmepriv with numStaNonErp := pmlmepriv.numStaNonErp + d }
  | .noShortSlotTime =>
    { pmlmepriv with numStaNoShortSlotTime := pmlmepriv.numStaNoShortSlotTime + d }
  | .noHt => { pmlmepriv with numStaNoHt := pmlmepriv.numStaNoHt + d }
  | .noHtGf => { pmlmepriv with numStaHtNoGf := pmlmepriv.numStaHtNoGf + d }
  | .ht20mhz => { pmlmepriv with numStaHt20mhz := pmlmepriv.numStaHt20mhz + d }

end MlmePriv

/-! ## Joining and leaving -/

def WLAN_STA_SHORT_PREAMBLE : BitVec 32 := 0x00000080
def WLAN_STA_WME : BitVec 32 := 0x00000200
def WLAN_STA_HT : BitVec 32 := 0x00000800
def WLAN_STA_WPS : BitVec 32 := 0x00001000
def WLAN_STA_MAYBE_WPS : BitVec 32 := 0x00002000
def WLAN_STA_NONERP : BitVec 32 := 0x80000000

def WLAN_CAPABILITY_SHORT_PREAMBLE : UInt16 := 0x0020
def WLAN_CAPABILITY_SHORT_SLOT_TIME : UInt16 := 0x0400
def IEEE80211_HT_CAP_SUP_WIDTH_20_40 : UInt16 := 0x0002
def IEEE80211_HT_CAP_GRN_FLD : UInt16 := 0x0010

namespace StaInfo

def hasFlag (psta : StaInfo) (flag : BitVec 32) : Bool := psta.flags &&& flag != 0

def setFlag (psta : StaInfo) (flag : BitVec 32) : StaInfo := { psta with flags := psta.flags ||| flag }

def clearFlag (psta : StaInfo) (flag : BitVec 32) : StaInfo :=
  { psta with flags := psta.flags &&& ~~~flag }

end StaInfo

/-- A station with its cell, the two records that joining and leaving write. -/
abbrev CapState := StaInfo × MlmePriv

/-- Count the station for the capability, unless it is counted already. -/
def capMark (cap : BssCap) (x : CapState) : CapState :=
  if x.1.capSet cap then x else (x.1.withCap cap true, x.2.addNumSta cap 1)

/-- Stop counting the station for the capability, if it is counted. -/
def capUnmark (cap : BssCap) (x : CapState) : CapState :=
  if x.1.capSet cap then (x.1.withCap cap false, x.2.addNumSta cap (-1)) else x

def capUpdate (cap : BssCap) (lacking : Bool) (x : CapState) : CapState :=
  if lacking then capMark cap x else capUnmark cap x

/-- The 802.11n part of `bss_cap_update_on_sta_join`: a station that has the greenfield or the 40 MHz
capability is not taken out of the count again. -/
def htCapJoin (x : CapState) : CapState :=
  if x.1.hasFlag WLAN_STA_HT then
    let htCapab := x.1.htCapInfo
    let x := capUnmark .noHt x
    let x := if htCapab &&& IEEE80211_HT_CAP_GRN_FLD = 0 then capMark .noHtGf x else x
    if htCapab &&& IEEE80211_HT_CAP_SUP_WIDTH_20_40 = 0 then capMark .ht20mhz x else x
  else capMark .noHt x

def capJoin (x : CapState) : CapState :=
  let shortPreamble := x.1.hasFlag WLAN_STA_SHORT_PREAMBLE
  let nonerp := x.1.hasFlag WLAN_STA_NONERP
  let shortSlotTime := x.1.capability &&& WLAN_CAPABILITY_SHORT_SLOT_TIME != 0
  let x := capUpdate .noShortPreamble (!shortPreamble) x
  let x := capUpdate .nonerp nonerp x
  let x := capUpdate .noShortSlotTime (!shortSlotTime) x
  htCapJoin x

def capLeave (x : CapState) : CapState :=
  let x := capUnmark .noShortPreamble x
  let x := capUnmark .nonerp x
  let x := capUnmark .noShortSlotTime x
  let x := capUnmark .noHtGf x
  let x := capUnmark .noHt x
  capUnmark .ht20mhz x

namespace RtwAdapter

def staInfo (padapter : RtwAdapter) (psta : StaId) : StaInfo := padapter.stapriv.staInfo psta

def setInfo (padapter : RtwAdapter) (psta : StaId) (info : StaInfo) : RtwAdapter :=
  { padapter with stapriv := padapter.stapriv.setInfo psta info }

def setStapriv (padapter : RtwAdapter) (stapriv : StaPriv) : RtwAdapter :=
  { padapter with stapriv := stapriv }

def onStapriv (padapter : RtwAdapter) (f : StaPriv → StaPriv) : RtwAdapter :=
  { padapter with stapriv := f padapter.stapriv }

def onCaps (padapter : RtwAdapter) (psta : StaId) (f : CapState → CapState) : RtwAdapter :=
  let x := f (padapter.staInfo psta, padapter.mlmepriv)
  { padapter.setInfo psta x.1 with mlmepriv := x.2 }

end RtwAdapter

/-- `bss_cap_update_on_sta_join`. -/
def bssCapUpdateOnStaJoin (padapter : RtwAdapter) (psta : StaId) : RtwAdapter :=
  padapter.onCaps psta capJoin

/-- `bss_cap_update_on_sta_leave`. -/
def bssCapUpdateOnStaLeave (padapter : RtwAdapter) (psta : StaId) : RtwAdapter :=
  padapter.onCaps psta capLeave

/-- `ap_free_sta`. -/
def apFreeSta (padapter : RtwAdapter) (psta : StaId) : RtwAdapter :=
  let padapter := padapter.setInfo psta ((padapter.staInfo psta).clearState _FW_LINKED)
  let padapter := bssCapUpdateOnStaLeave padapter psta
  padapter.onStapriv (rtwFreeStainfo · psta)

/-- `update_sta_info_apmode`; rates and 802.11n details are left out. -/
def updateStaInfoApmode (padapter : RtwAdapter) (info : StaInfo) : StaInfo :=
  let info := { info with
    macId := info.aid + 1
    ieee8021xBlocked := padapter.securitypriv.dot11AuthAlgrthm = dot11AuthAlgrthm_8021X
    qosOption := if info.htOption then 1 else info.qosOption }
  info.setState _FW_LINKED

/-- `sta_info_update`. -/
def staInfoUpdate (padapter : RtwAdapter) (info : StaInfo) : StaInfo :=
  let qosOption := if info.hasFlag WLAN_STA_WME then 1 else 0
  let qosOption := if padapter.mlmepriv.qosOption = 0 then 0 else qosOption
  let ht := info.hasFlag WLAN_STA_HT
  let info := { info with
    qosOption := if ht then 1 else qosOption
    htOption := ht && padapter.mlmepriv.htOption }
  updateStaInfoApmode padapter info

end Rtl8723au
