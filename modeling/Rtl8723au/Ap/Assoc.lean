import Rtl8723au.Include.Wifi
import Rtl8723au.Ap.BssCap

/-! `OnAuth` of `core/rtw_mlme_ext.c`: authentication frames in access point mode. -/
namespace Rtl8723au
set_option autoImplicit false

def WIFI_FW_AP_STATE : ℕ := 0x03

def _STATS_SUCCESSFUL_ : ℕ := 0
def _STATS_FAILURE_ : ℕ := 1
def _STATS_CAP_FAIL_ : ℕ := 10
def _STATS_NO_SUPP_ALG_ : ℕ := 13
def _STATS_OUT_OF_AUTH_SEQ_ : ℕ := 14
def _STATS_CHALLENGE_FAIL_ : ℕ := 15
def _STATS_UNABLE_HANDLE_STA_ : ℕ := 17

/-- What `OnAuth` reads of a frame. `challenge` is the challenge text element when there is one: its
length, and the 128 bytes that stand behind its two header bytes. -/
structure AuthFrame where
  sa : MacAddr
  algorithm : ℕ
  seq : ℕ
  challenge : Option (ℕ × Vector UInt8 128) := none

/-- The frame `issue_auth` sends. -/
structure AuthReply where
  hwaddr : MacAddr
  algorithm : ℕ
  seq : ℕ
  status : ℕ
  challenge : Option (Vector UInt8 128)

/-- `issue_auth`. -/
def issueAuth (psta : StaInfo) (status : ℕ) : AuthReply :=
  let algorithm := if status != _STATS_SUCCESSFUL_ then 0 else psta.authalg
  { hwaddr := psta.hwaddr
    algorithm := algorithm
    seq := psta.authSeq
    status := status
    challenge := if psta.authSeq = 2 ∧ psta.inState WIFI_FW_AUTH_STATE ∧ algorithm ≠ 0
      then some psta.chgTxt else none }

/-- `auth_mode`: without a WEP cipher the 802.1X setting is open system. -/
def authMode (psecuritypriv : SecurityPriv) : ℕ :=
  if psecuritypriv.dot11AuthAlgrthm = 2 ∧ psecuritypriv.dot11PrivacyAlgrthm ≠ WEP40 ∧
      psecuritypriv.dot11PrivacyAlgrthm ≠ WEP104 then 0
  else psecuritypriv.dot11AuthAlgrthm

/-- The challenge text element has a length and repeats the text of the station. -/
def challengeHolds (frame : AuthFrame) (psta : StaInfo) : Bool :=
  match frame.challenge with
  | none => false
  | some (ieLen, text) => ieLen != 0 && text == psta.chgTxt

/-- The part of `OnAuth` between the test of the sequence number and the reply: the station as it is
accepted, or the status of the reject. -/
def authExchange (mode assocTo : ℕ) (frame : AuthFrame) (pstat : StaInfo) : Except ℕ StaInfo :=
  if pstat.authSeq + 1 ≠ frame.seq then .error _STATS_OUT_OF_AUTH_SEQ_
  else if frame.algorithm = 0 ∧ (mode = 0 ∨ mode = 2) then
    if frame.seq = 1 then
      let pstat := (pstat.clearState WIFI_FW_AUTH_NULL).setState WIFI_FW_AUTH_SUCCESS
      .ok ((pstat.setExpireTo assocTo).setAuthalg frame.algorithm)
    else .error _STATS_OUT_OF_AUTH_SEQ_
  else if frame.seq = 1 then
    let pstat := (pstat.clearState WIFI_FW_AUTH_NULL).setState WIFI_FW_AUTH_STATE
    .ok ((pstat.setAuthalg frame.algorithm).setAuthSeq 2)
  else if frame.seq = 3 then
    if challengeHolds frame pstat then
      let pstat := (pstat.clearState WIFI_FW_AUTH_STATE).setState WIFI_FW_AUTH_SUCCESS
      .ok (pstat.setExpireTo assocTo)
    else .error _STATS_CHALLENGE_FAIL_
  else .error _STATS_OUT_OF_AUTH_SEQ_

/-- What `OnAuth` leaves: the entry it looked up or allocated, whether it allocated it, and the reply. -/
structure AuthOutcome where
  pstat : Option StaId := none
  allocated : Bool := false
  reply : Option AuthReply := none

/-- The label `auth_fail`. -/
def authFail (padapter : RtwAdapter) (frame : AuthFrame) (pstat : Option StaId) (allocated : Bool)
    (status : ℕ) : RtwAdapter × AuthOutcome :=
  let padapter := match pstat with
    | none => padapter
    | some psta => padapter.onStapriv (rtwFreeStainfo · psta)
  let stat := { initStainfo with authSeq := 2, hwaddr := frame.sa }
  (padapter, { pstat, allocated, reply := some (issueAuth stat status) })

/-- The entry for the source address: looked up and taken off `asoc_list`, or allocated. -/
def authStation (pstapriv : StaPriv) (sa : MacAddr) : StaPriv × Option (StaId × Bool) :=
  match rtwGetStainfo pstapriv (some sa) with
  | some psta =>
    (if psta ∈ pstapriv.asocList then pstapriv.asocListDel psta else pstapriv, some (psta, false))
  | none =>
    match rtwAllocStainfo pstapriv sa with
    | (pstapriv, none) => (pstapriv, none)
    | (pstapriv, some psta) =>
      let info := { pstapriv.staInfo psta with state := WIFI_FW_AUTH_NULL, authSeq := 0 }
      (pstapriv.setInfo psta info, some (psta, true))

/-- The station is put on `auth_list`, and its time starts with the first frame of an exchange. -/
def authListed (pstapriv : StaPriv) (psta : StaId) : StaPriv :=
  let pstapriv := if psta ∈ pstapriv.authList then pstapriv else pstapriv.authListAdd psta
  let info := pstapriv.staInfo psta
  pstapriv.setInfo psta (if info.authSeq = 0 then info.setExpireTo pstapriv.authTo else info)

/-- `issue_auth` behind an accepted frame, and the sequence number after it. -/
def authReplied (frame : AuthFrame) (pstat : StaInfo) : StaInfo :=
  pstat.setAuthSeq (if pstat.inState WIFI_FW_AUTH_SUCCESS then 0 else frame.seq + 1)

/-- The tests in front of the lookup: the algorithm is in force, and the access list lets the source in. -/
def authAdmits (padapter : RtwAdapter) (frame : AuthFrame) : Except ℕ Unit :=
  let mode := authMode padapter.securitypriv
  if (0 < frame.algorithm ∧ mode = 0) ∨ (frame.algorithm = 0 ∧ mode = 1) then
    .error _STATS_NO_SUPP_ALG_
  else if rtwAccessCtrl padapter.stapriv frame.sa then .ok ()
  else .error _STATS_UNABLE_HANDLE_STA_

/-- `OnAuth`. -/
def onAuth (padapter : RtwAdapter) (frame : AuthFrame) : RtwAdapter × AuthOutcome :=
  if padapter.mlmeinfoState &&& 0x03 ≠ WIFI_FW_AP_STATE then (padapter, {})
  else
    match authAdmits padapter frame with
    | .error status => authFail padapter frame none false status
    | .ok () =>
      match authStation padapter.stapriv frame.sa with
      | (stapriv, none) =>
        authFail (padapter.setStapriv stapriv) frame none false _STATS_UNABLE_HANDLE_STA_
      | (stapriv, some (psta, allocated)) =>
        let stapriv := authListed stapriv psta
        let padapter := padapter.setStapriv stapriv
        match authExchange (authMode padapter.securitypriv) stapriv.assocTo frame
            (stapriv.staInfo psta) with
        | .error status => authFail padapter frame (some psta) allocated status
        | .ok pstat =>
          let reply := issueAuth (pstat.setAuthSeq (frame.seq + 1)) _STATS_SUCCESSFUL_
          (padapter.setInfo psta (authReplied frame pstat),
            { pstat := some psta, allocated, reply := some reply })

end Rtl8723au

/-! `OnAssocReq` of `core/rtw_mlme_ext.c`: association and reassociation requests. The element parsers
are a parameter: a request carries what they found. -/
namespace Rtl8723au
set_option autoImplicit false

def IEEE80211_3ADDR_LEN : ℕ := 24
def _ASOCREQ_IE_OFFSET_ : ℕ := 4
def _REASOCREQ_IE_OFFSET_ : ℕ := 10

def _RSON_CLS2_ : ℕ := 6
def WLAN_STATUS_AP_UNABLE_TO_HANDLE_NEW_STA : ℕ := 17
def WLAN_REASON_INVALID_GROUP_CIPHER : ℕ := 18
def WLAN_REASON_INVALID_PAIRWISE_CIPHER : ℕ := 19
def WLAN_STATUS_INVALID_IE : ℕ := 40
def WLAN_STATUS_INVALID_GROUP_CIPHER : ℕ := 41
def WLAN_STATUS_INVALID_PAIRWISE_CIPHER : ℕ := 42

/-- The elements of `struct rtw_ieee802_11_elems` that are read. An RSN or WPA element comes with what
its parser returns, the group and the pairwise ciphers. -/
structure Ieee80211Elems where
  ssid : Bool := true
  rsnIe : Option (Option (ℕ × ℕ)) := none
  wpaIe : Option (Option (ℕ × ℕ)) := none
  wpsIe : Bool := false
  htCapabilities : Option UInt16 := none

/-- What `OnAssocReq` reads of a frame. `elems` is absent when `rtw_ieee802_11_parse_elems` fails; the
other elements are those `rtw_get_ie` finds. -/
structure AssocReq where
  reassoc : Bool
  addr2 : MacAddr
  pktLen : ℕ
  capabInfo : UInt16
  elems : Option Ieee80211Elems
  ssidIe : Option (List UInt8)
  supportedRates : Option (List UInt8)
  extSupportedRates : Option (List UInt8) := none
  wmmQosInfo : Option UInt8 := none
  p2pIe : Bool := false

/-! ## The checks

Each check returns the station as it leaves it and a status; a status other than
`_STATS_SUCCESSFUL_` goes to `OnAssocReqFail`. -/

abbrev Checked := StaInfo × ℕ

def thenCheck (x : Checked) (check : StaInfo → Checked) : Checked :=
  if x.2 = _STATS_SUCCESSFUL_ then check x.1 else x

def checkElems (req : AssocReq) (pstat : StaInfo) : Checked :=
  match req.elems with
  | some elems => (pstat, if elems.ssid then _STATS_SUCCESSFUL_ else _STATS_FAILURE_)
  | none => (pstat, _STATS_FAILURE_)

def checkSsid (curSsid : List UInt8) (req : AssocReq) (pstat : StaInfo) : Checked :=
  match req.ssidIe with
  | none => (pstat, _STATS_FAILURE_)
  | some ssid => (pstat, if ssid ≠ [] ∧ ssid = curSsid then _STATS_SUCCESSFUL_ else _STATS_FAILURE_)

/-- `UpdateBrateTblForSoftAP`: the CCK rates become basic rates. -/
def updateBrateTblForSoftAP (bssrateset : List UInt8) : List UInt8 :=
  bssrateset.map fun rate => if rate &&& 0x7f ∈ [0x02, 0x04, 0x0b, 0x16] then rate ||| 0x80 else rate

/-- The extended rates are only added to at most sixteen rates. -/
def checkRates (req : AssocReq) (pstat : StaInfo) : Checked :=
  match req.supportedRates with
  | none => (pstat, _STATS_FAILURE_)
  | some supportRate =>
    let ext := if supportRate.length ≤ 16 then req.extSupportedRates.getD [] else []
    ({ pstat with bssrateset := updateBrateTblForSoftAP (supportRate ++ ext) }, _STATS_SUCCESSFUL_)

/-- The cipher a station is to use must be one of those of the cell. -/
def cipherStatus (group pairwise invalidGroup invalidPairwise : ℕ) : ℕ :=
  if pairwise = 0 then invalidPairwise
  else if group = 0 then invalidGroup
  else _STATS_SUCCESSFUL_

/-- The RSN or WPA element, and whether one was used (`wpa_ie` is not null). -/
def checkWpa (psecuritypriv : SecurityPriv) (elems : Ieee80211Elems) (pstat : StaInfo) :
    Checked × Bool :=
  let pstat := { pstat with
    dot8021xalg := 0, wpaPsk := 0, wpaGroupCipher := 0, wpa2GroupCipher := 0
    wpaPairwiseCipher := 0, wpa2PairwiseCipher := 0 }
  let wpa2 := if psecuritypriv.wpaPsk &&& 2 ≠ 0 then elems.rsnIe else none
  let wpa := if psecuritypriv.wpaPsk &&& 1 ≠ 0 then elems.wpaIe else none
  match wpa2, wpa with
  | some (some (groupCipher, pairwiseCipher)), _ =>
    let group := groupCipher &&& psecuritypriv.wpa2GroupCipher
    let pairwise := pairwiseCipher &&& psecuritypriv.wpa2PairwiseCipher
    (({ pstat with
        dot8021xalg := 1, wpaPsk := 2, wpa2GroupCipher := group, wpa2PairwiseCipher := pairwise },
      cipherStatus group pairwise WLAN_REASON_INVALID_GROUP_CIPHER
        WLAN_REASON_INVALID_PAIRWISE_CIPHER), true)
  | none, some (some (groupCipher, pairwiseCipher)) =>
    let group := groupCipher &&& psecuritypriv.wpaGroupCipher
    let pairwise := pairwiseCipher &&& psecuritypriv.wpaPairwiseCipher
    (({ pstat with
        dot8021xalg := 1, wpaPsk := 1, wpaGroupCipher := group, wpaPairwiseCipher := pairwise },
      cipherStatus group pairwise WLAN_STATUS_INVALID_GROUP_CIPHER
        WLAN_STATUS_INVALID_PAIRWISE_CIPHER), true)
  | some none, _ => ((pstat, WLAN_STATUS_INVALID_IE), true)
  | none, some none => ((pstat, WLAN_STATUS_INVALID_IE), true)
  | none, none => ((pstat, _STATS_SUCCESSFUL_), false)

/-- WPS: a station without an RSN or WPA element must find a selected registrar, one with such an
element must find a cell that has a key. -/
def checkWps (padapter : RtwAdapter) (elems : Ieee80211Elems) (wpaIe : Bool) (pstat : StaInfo) :
    Checked :=
  let wpaPsk := padapter.securitypriv.wpaPsk
  let pstat := pstat.clearFlag (WLAN_STA_WPS ||| WLAN_STA_MAYBE_WPS)
  if wpaIe then
    if wpaPsk = 0 then (pstat, WLAN_STATUS_INVALID_IE)
    else (if elems.wpsIe then pstat.setFlag WLAN_STA_WPS else pstat, _STATS_SUCCESSFUL_)
  else
    (pstat.setFlag (if elems.wpsIe then WLAN_STA_WPS else WLAN_STA_MAYBE_WPS),
      if 0 < wpaPsk ∧ padapter.mlmepriv.wpsSelectedRegistrar = some false then
        _STATS_UNABLE_HANDLE_STA_
      else _STATS_SUCCESSFUL_)

def checkSecurity (padapter : RtwAdapter) (elems : Ieee80211Elems) (pstat : StaInfo) : Checked :=
  let x := checkWpa padapter.securitypriv elems pstat
  thenCheck x.1 (checkWps padapter elems x.2)

def checkWmm (padapter : RtwAdapter) (req : AssocReq) (pstat : StaInfo) : Checked :=
  let pstat := { pstat.clearFlag WLAN_STA_WME with qosOption := 0 }
  if padapter.mlmepriv.qosOption ≠ 0 ∧ req.wmmQosInfo.isSome then
    ({ pstat.setFlag WLAN_STA_WME with qosOption := 1 }, _STATS_SUCCESSFUL_)
  else (pstat, _STATS_SUCCESSFUL_)

def checkHt (padapter : RtwAdapter) (elems : Ieee80211Elems) (pstat : StaInfo) : Checked :=
  let pstat := match elems.htCapabilities with
    | some capInfo => { pstat.setFlag (WLAN_STA_HT ||| WLAN_STA_WME) with htCapInfo := capInfo }
    | none => { pstat.clearFlag WLAN_STA_HT with htCapInfo := 0 }
  (pstat, if !padapter.mlmepriv.htOption && pstat.hasFlag WLAN_STA_HT then _STATS_FAILURE_
    else _STATS_SUCCESSFUL_)

/-- The flags that follow from the rates and the capabilities: a station is not ERP when it has no rate
above 11 Mbps. -/
def updateErp (pstat : StaInfo) : StaInfo :=
  let erp := pstat.bssrateset.any fun rate => rate &&& 0x7f > 22
  let pstat := if erp then pstat.clearFlag WLAN_STA_NONERP else pstat.setFlag WLAN_STA_NONERP
  if pstat.capability &&& WLAN_CAPABILITY_SHORT_PREAMBLE != 0 then pstat.setFlag WLAN_STA_SHORT_PREAMBLE
  else pstat.clearFlag WLAN_STA_SHORT_PREAMBLE

/-- `process_assoc_req_p2p_ie`, without the device information it stores. -/
def processAssocReqP2pIe (roleGo p2pIe : Bool) : ℕ :=
  if !roleGo then P2P_STATUS_FAIL_REQUEST_UNABLE
  else if p2pIe then P2P_STATUS_SUCCESS
  else P2P_STATUS_FAIL_INVALID_PARAM

def checkP2p (padapter : RtwAdapter) (req : AssocReq) (pstat : StaInfo) : Checked :=
  if padapter.p2pRoleGo && req.p2pIe && 0 < processAssocReqP2pIe padapter.p2pRoleGo req.p2pIe then
    (pstat, _STATS_CAP_FAIL_)
  else (pstat, _STATS_SUCCESSFUL_)

/-- All checks of a request, from the parsed elements to the P2P element. -/
def assocChecks (padapter : RtwAdapter) (req : AssocReq) (pstat : StaInfo) : Checked :=
  let elems := req.elems.getD {}
  let x := checkElems req { pstat with capability := req.capabInfo }
  let x := thenCheck x (checkSsid padapter.curSsid req)
  let x := thenCheck x (checkRates req)
  let x := thenCheck x (checkSecurity padapter elems)
  let x := thenCheck x (checkWmm padapter req)
  let x := thenCheck x (checkHt padapter elems)
  let x := thenCheck x fun pstat => (updateErp pstat, _STATS_SUCCESSFUL_)
  thenCheck x (checkP2p padapter req)

/-! ## The association identifier -/

/-- The first identifier with a free slot; with no free slot the last one is taken. -/
def firstFreeAid (pstapriv : StaPriv) : ℕ :=
  match (List.finRange 32).find? fun slot => (pstapriv.staAid slot).isNone with
  | some slot => slot + 1
  | none => NUM_STA

/-- The station gets an identifier if it has none; `none` when there is no room. -/
def assocAid (pstapriv : StaPriv) (psta : StaId) : Option StaPriv :=
  let info := pstapriv.staInfo psta
  if 0 < info.aid then some pstapriv
  else
    let aid := firstFreeAid pstapriv
    if pstapriv.maxNumSta < aid then none
    else some ((pstapriv.setInfo psta (info.setAid aid)).setSlot aid (some psta))

/-! ## `OnAssocReq` -/

/-- The frame the handler answers with: a reject reason, or the status of a response. -/
inductive AssocReply where
  | deauth (addr : MacAddr) (reason : ℕ)
  | asocrsp (psta : StaId) (status aid : ℕ)

/-- The station may associate: its state as the handler leaves it at the gate. -/
def assocGate (pstat : StaInfo) : Option StaInfo :=
  if pstat.inState WIFI_FW_AUTH_SUCCESS then
    some ((pstat.clearState WIFI_FW_AUTH_SUCCESS).setState WIFI_FW_ASSOC_STATE)
  else if pstat.inState WIFI_FW_ASSOC_SUCCESS then
    some ((pstat.clearState WIFI_FW_ASSOC_SUCCESS).setState WIFI_FW_ASSOC_STATE)
  else none

/-- The label `OnAssocReqFail`. -/
def onAssocReqFail (padapter : RtwAdapter) (psta : StaId) (pstat : StaInfo) (status : ℕ) :
    RtwAdapter × Option AssocReply :=
  (padapter.setInfo psta (pstat.setAid 0), some (.asocrsp psta status 0))

/-- The station moves from `auth_list` to `asoc_list`. -/
def assocListed (pstapriv : StaPriv) (psta : StaId) : StaPriv :=
  let info := (pstapriv.staInfo psta).clearState WIFI_FW_ASSOC_STATE
  let pstapriv := pstapriv.setInfo psta (info.setState WIFI_FW_ASSOC_SUCCESS)
  let pstapriv := pstapriv.authListRemove psta
  if psta ∈ pstapriv.asocList then pstapriv
  else
    let info := (pstapriv.staInfo psta).setExpireTo pstapriv.expireTo
    (pstapriv.setInfo psta info).asocListAdd psta

def assocJoined (padapter : RtwAdapter) (psta : StaId) : RtwAdapter :=
  let padapter := bssCapUpdateOnStaJoin padapter psta
  padapter.setInfo psta (staInfoUpdate padapter (padapter.staInfo psta))

/-- From the association identifier to the response. -/
def assocAccept (padapter : RtwAdapter) (psta : StaId) (pstat : StaInfo) :
    RtwAdapter × Option AssocReply :=
  match assocAid (padapter.setInfo psta pstat).stapriv psta with
  | none => onAssocReqFail padapter psta pstat WLAN_STATUS_AP_UNABLE_TO_HANDLE_NEW_STA
  | some stapriv =>
    let padapter := assocJoined (padapter.setStapriv (assocListed stapriv psta)) psta
    (padapter, some (.asocrsp psta _STATS_SUCCESSFUL_ (padapter.staInfo psta).aid))

def assocStation (padapter : RtwAdapter) (req : AssocReq) (psta : StaId) :
    RtwAdapter × Option AssocReply :=
  match assocGate (padapter.staInfo psta) with
  | none => (padapter, some (.deauth req.addr2 _RSON_CLS2_))
  | some pstat =>
    let x := assocChecks padapter req pstat
    if x.2 = _STATS_SUCCESSFUL_ then assocAccept padapter psta x.1
    else onAssocReqFail padapter psta x.1 x.2

/-- `OnAssocReq`. -/
def onAssocReq (padapter : RtwAdapter) (req : AssocReq) : RtwAdapter × Option AssocReply :=
  let ieOffset := if req.reassoc then _REASOCREQ_IE_OFFSET_ else _ASOCREQ_IE_OFFSET_
  if padapter.mlmeinfoState &&& 0x03 ≠ WIFI_FW_AP_STATE then (padapter, none)
  else if req.pktLen < IEEE80211_3ADDR_LEN + ieOffset then (padapter, none)
  else
    match rtwGetStainfo padapter.stapriv (some req.addr2) with
    | none => (padapter, some (.deauth req.addr2 _RSON_CLS2_))
    | some psta => assocStation padapter req psta

end Rtl8723au
