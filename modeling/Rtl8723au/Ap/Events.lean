import Rtl8723au.Ap.TableInvariant

/-! The events of an access point, the history they make, and which stations each of them frees. -/
namespace Rtl8723au
open Relation
set_option autoImplicit false

/-! ## Events -/

inductive ApEvent where
  | auth (frame : AuthFrame)
  | assocReq (req : AssocReq)
  | deAuth (addr2 addr3 : MacAddr)
  | disassoc (addr2 addr3 : MacAddr)
  | expire (input : ExpireInput)
  | staFlush
  | freeAllStainfo
  | delStation (mac : Option MacAddr)
  | pwrbit (src : MacAddr) (pwrbit : Bool) (queued : ℕ)
  | allocBss (macAddress : MacAddr)
  | setMaxNumSta (n : ℕ)

/-- `rtw_sta_flush` and then `rtw_free_all_stainfo`, as `stop_ap_mode` calls them. -/
def flushAllStainfo (padapter : RtwAdapter) : RtwAdapter :=
  if padapter.mlmeinfoState &&& 0x03 ≠ WIFI_FW_AP_STATE then padapter
  else (rtwStaFlush padapter).onStapriv rtwFreeAllStainfo

/-- The frame ends its exchange: it is an open system frame or the third frame of a shared key exchange. -/
def authCompletes (mode : ℕ) (frame : AuthFrame) : Bool :=
  frame.seq = 3 || (frame.algorithm = 0 && (mode = 0 || mode = 2))

namespace ApHistory

/-- An entry that is allocated has nothing accepted yet; a reply with success to the frame that ends an
exchange accepts it. -/
def recordAuth (h : ApHistory) (frame : AuthFrame) (ap : RtwAdapter) (outcome : AuthOutcome) :
    ApHistory :=
  match outcome.pstat, outcome.reply with
  | some psta, some reply =>
    let mode := authMode h.ap.securitypriv
    let accepted := if outcome.allocated then Function.update h.accepted psta none else h.accepted
    if reply.status = _STATS_SUCCESSFUL_ ∧ authCompletes mode frame then
      ⟨ap, Function.update accepted psta (some ⟨mode, frame, (ap.staInfo psta).chgTxt⟩)⟩
    else ⟨ap, accepted⟩
  | _, _ => ⟨ap, h.accepted⟩

def recordAlloc (h : ApHistory) (macAddress : MacAddr) (ap : RtwAdapter) : ApHistory :=
  match rtwGetStainfo h.ap.stapriv (some macAddress), h.ap.stapriv.freeStaQueue with
  | none, psta :: _ => ⟨ap, Function.update h.accepted psta none⟩
  | _, _ => ⟨ap, h.accepted⟩

/-- One event; `none` when `expire_timeout_chk` divides by zero. -/
def step (h : ApHistory) : ApEvent → Option ApHistory
  | .auth frame =>
    let x := onAuth h.ap frame
    some (h.recordAuth frame x.1 x.2)
  | .assocReq req => some { h with ap := (onAssocReq h.ap req).1 }
  | .deAuth addr2 addr3 => some { h with ap := onDeAuth h.ap addr2 addr3 }
  | .disassoc addr2 addr3 => some { h with ap := onDisassoc h.ap addr2 addr3 }
  | .expire input => (expireTimeoutChk h.ap input).map fun ap => { h with ap := ap }
  | .staFlush => some { h with ap := rtwStaFlush h.ap }
  | .freeAllStainfo => some { h with ap := flushAllStainfo h.ap }
  | .delStation mac => some { h with ap := cfg80211RtwDelStation h.ap mac }
  | .pwrbit src pwrbit queued => some { h with ap := processPwrbitData h.ap src pwrbit queued }
  | .allocBss macAddress => some (h.recordAlloc macAddress (allocBssStainfo h.ap macAddress))
  | .setMaxNumSta n => some { h with ap := setMaxNumSta h.ap n }

/-- The start: `_rtw_init_sta_priv`, `rtw_init_bcmc_stainfo` and `start_ap_mode`, with any setting of the
driver. -/
def start (config : RtwAdapter) : ApHistory :=
  { ap := startApMode { config with stapriv := rtwInitBcmcStainfo rtwInitStaPriv } }

def run (h : ApHistory) : List ApEvent → Option ApHistory
  | [] => some h
  | event :: events => (h.step event).bind fun h' => h'.run events

end ApHistory

/-! ## Which stations an event frees -/

section
variable (a : RtwAdapter)

def inApState : Prop := a.mlmeinfoState &&& 0x03 = WIFI_FW_AP_STATE

/-- `OnAuth` rejects the exchange of a station it looked up, and frees the station. -/
def AuthRejects (frame : AuthFrame) (psta : StaId) : Prop :=
  inApState a ∧ authAdmits a frame = .ok () ∧ rtwGetStainfo a.stapriv (some frame.sa) = some psta ∧
    ∃ status, authExchange (authMode a.securitypriv) a.stapriv.assocTo frame (a.staInfo psta) =
      .error status

/-- The source address of the frame gets a new entry. -/
def AuthAllocates (frame : AuthFrame) : Prop :=
  inApState a ∧ authAdmits a frame = .ok () ∧ rtwGetStainfo a.stapriv (some frame.sa) = none

/-- The tick takes the station of `asoc_list` off it. -/
def AsocExpires (input : ExpireInput) (psta : StaId) : Prop :=
  let info := asocAge a.stapriv.expireTo (input.alive psta) (a.staInfo psta)
  psta ∈ a.stapriv.asocList ∧ info.expireTo = 0 ∧ a.wifiSpec ≠ 1 ∧
    if a.activeKeepAliveCheck then
      info.inState _FW_LINKED = true ∧ input.nulldataAcked psta = false ∧ ¬ info.keepAliveTrycnt + 1 ≤ 3
    else (info.inState WIFI_SLEEP_STATE && !info.inState WIFI_STA_ALIVE_CHK_STATE) = false

/-- The station `cfg80211_rtw_del_station` deletes. -/
def delStationTarget (mac : MacAddr) : Option StaId :=
  a.stapriv.asocList.find? fun psta =>
    let info := a.staInfo psta
    mac == info.hwaddr && !(info.dot8021xalg == 1 && !info.bpairwiseKeyInstalled)

/-- The event frees the station after it left the cell (`ap_free_sta`). -/
def Leaves : ApEvent → StaId → Prop
  | .deAuth addr2 addr3, psta | .disassoc addr2 addr3, psta =>
    addr3 = a.bssid ∧ rtwGetStainfo a.stapriv (some addr2) = some psta ∧ psta ∈ a.stapriv.asocList
  | .expire input, psta => AsocExpires a input psta
  | .staFlush, psta | .freeAllStainfo, psta => inApState a ∧ psta ∈ a.stapriv.asocList
  | .delStation none, psta => inApState a ∧ psta ∈ a.stapriv.asocList
  | .delStation (some mac), psta => delStationTarget a mac = some psta
  | _, _ => False

/-- The event frees the station without `bss_cap_update_on_sta_leave`. -/
def Drops : ApEvent → StaId → Prop
  | .auth frame, psta => AuthRejects a frame psta
  | .expire _, psta => psta ∈ a.stapriv.authList ∧ (a.staInfo psta).expireTo = 1
  | .freeAllStainfo, psta => inApState a ∧ a.stapriv.Hashed psta ∧ psta ∉ a.stapriv.asocList
  | _, _ => False

/-- The event rejects a request of the station at `OnAssocReqFail`. -/
def AssocRejects : ApEvent → StaId → Prop
  | .assocReq req, psta => inApState a ∧ rtwGetStainfo a.stapriv (some req.addr2) = some psta ∧
    ∃ pstat, assocGate (a.staInfo psta) = some pstat ∧
      (assocChecks a req pstat).2 ≠ _STATS_SUCCESSFUL_
  | _, _ => False

/-- The address that the event allocates an entry for. -/
def Allocates : ApEvent → MacAddr → Prop
  | .auth frame, hwaddr => AuthAllocates a frame ∧ hwaddr = frame.sa
  | .allocBss macAddress, hwaddr => hwaddr = macAddress ∧ rtwGetStainfo a.stapriv (some macAddress) = none
  | _, _ => False

/-- What is known of the operations of an event, in terms of the state before it. -/
def eventPermits (event : ApEvent) : Permits where
  free s psta :=
    ((s.staInfo psta).aid = 0 ∧ (s.staInfo psta).noCaps) ∨
    ((s.staInfo psta).aid = (a.staInfo psta).aid ∧
      ((Drops a event psta ∧ (a.staInfo psta).SameStation (s.staInfo psta)) ∨
        (Leaves a event psta ∧ (s.staInfo psta).noCaps)))
  alloc s hwaddr := s = a ∧ Allocates a event hwaddr
  forget s psta := (s.staInfo psta).aid = 0 ∨
    ((s.staInfo psta).aid = (a.staInfo psta).aid ∧ AssocRejects a event psta)

end

end Rtl8723au
