import Rtl8723au.Ap.AssocIds
import Rtl8723au.Library.GuardedRuns

/-! The stations by their MAC identifier, `pODM_StaInfo`: `rtl8723a_SetHalODMVar` of `hal/rtl8723a_hal_init.c` and the
places of `core/rtw_ap.c` and `core/rtw_sta_mgt.c` that call it. -/
namespace Rtl8723au
set_option autoImplicit false

/-! ## The table -/

def ODM_ASSOCIATE_ENTRY_NUM : ℕ := 32

/-- `pODM_StaInfo` of `struct DM_ODM_T`; `outside` tells whether a place behind the array was written. -/
structure OdmStaInfo where
  entry : Fin 32 → Option StaId := fun _ => none
  outside : Bool := false

/-- The station is the entry of the access point itself. -/
def StaInfo.isAp (psta : StaInfo) : Bool := psta.inState (BitVec.ofNat 32 WIFI_AP_STATE)

namespace OdmStaInfo

/-- `ODM_CmnInfoPtrArrayHook` with `ODM_CMNINFO_STA_STATUS`. -/
def hook (odm : OdmStaInfo) (index : ℕ) (value : Option StaId) : OdmStaInfo :=
  if h : index < ODM_ASSOCIATE_ENTRY_NUM then { odm with entry := Function.update odm.entry ⟨index, h⟩ value }
  else { odm with outside := true }

/-- `rtl8723a_SetHalODMVar` with `HAL_ODM_STA_INFO`. -/
def rtl8723aSetHalODMVar (odm : OdmStaInfo) (psta : StaId) (info : StaInfo) (bSet : Bool) : OdmStaInfo :=
  odm.hook info.macId (if bSet then some psta else none)

/-- What `rtw_free_stainfo` does to the table. -/
def rtwFreeStainfo (odm : OdmStaInfo) (psta : StaId) (info : StaInfo) : OdmStaInfo :=
  if info.isAp then odm else odm.rtl8723aSetHalODMVar psta info false

end OdmStaInfo

/-- The MAC identifier in the argument of `add_RATid`; a station that is not linked, or whose association identifier
is too large, has none. -/
def addRATidMacId (psta : StaInfo) : Option ℕ :=
  if !psta.inState _FW_LINKED then none
  else if psta.aid < NUM_STA then some (psta.macId &&& 0x1f)
  else none

/-! ## The machine -/

instance (sp : StaPriv) (psta : StaId) : Decidable (sp.Hashed psta) :=
  inferInstanceAs (Decidable (∃ index, psta ∈ sp.staHash index))

/-- The entry that `OnAuth` frees with a reject; it may be one it has just allocated. -/
def authFreed (outcome : AuthOutcome) : List StaId :=
  match outcome.pstat, outcome.reply with
  | some psta, some reply => if reply.status = _STATS_SUCCESSFUL_ then [] else [psta]
  | _, _ => []

/-- The stations an event calls `rtw_free_stainfo` for. It takes a station out of its hash list, which nothing else
does. -/
def freedStations (a a' : RtwAdapter) : ApEvent → List StaId
  | .auth frame => authFreed (onAuth a frame).2
  | _ => (List.finRange 32).filter fun psta => a.stapriv.Hashed psta ∧ ¬a'.stapriv.Hashed psta

/-- The station an answer of `OnAssocReq` with success is for. -/
def assocGranted : Option AssocReply → Option StaId
  | some (.asocrsp psta status _) => if status = _STATS_SUCCESSFUL_ then some psta else none
  | _ => none

/-- The station `OnAssocReq` calls `sta_info_update` for. -/
def joinedStation (a : RtwAdapter) : ApEvent → Option StaId
  | .assocReq req => assocGranted (onAssocReq a req).2
  | _ => none

/-- The access point with the table. -/
structure OdmAp where
  h : ApHistory
  odm : OdmStaInfo

namespace OdmAp

/-- The table after an event that leads to `h'`. -/
def after (s : OdmAp) (event : ApEvent) (h' : ApHistory) : OdmAp :=
  let odm := (freedStations s.h.ap h'.ap event).foldl
    (fun odm psta => odm.rtwFreeStainfo psta (h'.ap.staInfo psta)) s.odm
  { h := h'
    odm := match joinedStation s.h.ap event with
      | some psta => odm.rtl8723aSetHalODMVar psta (h'.ap.staInfo psta) true
      | none => odm }

def step (s : OdmAp) (event : ApEvent) : Option OdmAp := (s.h.step event).map (s.after event)

/-- The access point after `start_bss_network`, with the broadcast station in the table. -/
def start (config : RtwAdapter) : OdmAp where
  h := ApHistory.start config
  odm := ({} : OdmStaInfo).rtl8723aSetHalODMVar 0 ((ApHistory.start config).ap.staInfo 0) true

/-! ## What the table should hold -/

/-- Nothing outside the array was touched, each element is an allocated station with that MAC identifier, an associated
station is at its index, and what `add_RATid` sends tells the associated stations apart. -/
structure Truthful (s : OdmAp) : Prop where
  inside : s.odm.outside = false
  entry : ∀ i p, s.odm.entry i = some p → s.h.ap.stapriv.Hashed p ∧ (s.h.ap.staInfo p).macId = i.val
  stored : ∀ p ∈ s.h.ap.stapriv.asocList, ∃ hlt : (s.h.ap.staInfo p).macId < 32,
    s.odm.entry ⟨(s.h.ap.staInfo p).macId, hlt⟩ = some p
  apart : ∀ p ∈ s.h.ap.stapriv.asocList, ∀ m, addRATidMacId (s.h.ap.staInfo p) = some m →
    m ≠ 0 ∧ m ≠ 1 ∧ ∀ q ∈ s.h.ap.stapriv.asocList, q ≠ p → addRATidMacId (s.h.ap.staInfo q) ≠ some m

/-- `OnAssocReq` accepts the request of the station: it passes all checks, and there is room for it. -/
def AssocAccepts (a : RtwAdapter) (req : AssocReq) (psta : StaId) : Prop :=
  inApState a ∧ IEEE80211_3ADDR_LEN + (if req.reassoc then _REASOCREQ_IE_OFFSET_ else _ASOCREQ_IE_OFFSET_) ≤ req.pktLen ∧
    rtwGetStainfo a.stapriv (some req.addr2) = some psta ∧
    (∃ pstat, assocGate (a.staInfo psta) = some pstat ∧ (assocChecks a req pstat).2 = _STATS_SUCCESSFUL_) ∧
    (0 < (a.staInfo psta).aid ∨ firstFreeAid a.stapriv ≤ a.stapriv.maxNumSta)

/-- A station that is accepted is not the entry of the access point, and it either has kept its association identifier
or has had no MAC identifier before and gets one that is in the table; no station with a MAC identifier becomes the
entry of the access point. -/
def Safe (s : OdmAp) : ApEvent → Prop
  | .assocReq req => ∀ p, AssocAccepts s.h.ap req p → (s.h.ap.staInfo p).isAp = false ∧
    (0 < (s.h.ap.staInfo p).aid ∨
      (s.h.ap.staInfo p).macId = 0 ∧ firstFreeAid s.h.ap.stapriv + 1 < ODM_ASSOCIATE_ENTRY_NUM)
  | .allocBss macAddress => ∀ p, rtwGetStainfo s.h.ap.stapriv (some macAddress) = some p →
    (s.h.ap.staInfo p).macId = 0
  | _ => True

end OdmAp

end Rtl8723au
