import Rtl8723au.Ap.StaKeysTable
import Rtl8723au.Mlme.ApFrame
import Rtl8723au.Mlme.JoinRuns

/-! A station of the driver that joins an access point of the driver: `issue_asocrsp`, and a medium that loses, repeats and
delays what the access point answers. Every other frame may come from anywhere. A result that is a success names the
identifier that the access point gave to that station. -/
namespace Rtl8723au
namespace Link
open Relation Mem Security Wifi
open ApFrame (wlanhdr)
open AssocReq (cpuToLe16)
set_option autoImplicit false

/-! ## Frames -/

def WIFI_ASSOCRSP : ℕ := 0x10
def WIFI_REASSOCRSP : ℕ := 0x30

def frameOf (l : List UInt8) : MgmtFrame := ⟨putBytes (fun _ => 0) 0 l, l.length⟩

/-- What `issue_asocrsp` reads beside the station. `elements` are those behind the rates: HT, WMM, vendor, WPS and P2P. -/
structure RspConf where
  mgntSeq : ℕ
  capability : Vector UInt8 2
  elements : List UInt8

def ie (index : UInt8) (source : List UInt8) : List UInt8 := index :: UInt8.ofNat source.length :: source

/-- The rates, in two elements where there are more than eight. -/
def rates (bssrateset : List UInt8) : List UInt8 :=
  if bssrateset.length ≤ 8 then ie _SUPPORTEDRATES_IE_ bssrateset
  else ie _SUPPORTEDRATES_IE_ (bssrateset.take 8) ++ ie _EXT_SUPPORTEDRATES_IE_ (bssrateset.drop 8)

/-- `issue_asocrsp`, for the station as the handler leaves it. -/
def issueAsocrsp (padapter : RtwAdapter) (c : RspConf) (status aid : ℕ) (pstat : StaInfo) (pktType : ℕ) : List UInt8 :=
  wlanhdr pstat.hwaddr padapter.macAddr padapter.bssid c.mgntSeq pktType ++
    (c.capability.toList ++ (cpuToLe16 status ++ (cpuToLe16 (aid ||| 0xc000) ++ (rates pstat.bssrateset ++ c.elements))))

/-! ### The header -/

section Header
variable (addr1 addr2 addr3 : Vector UInt8 6) (seq type : ℕ) (body : List UInt8)

/-- The memory that `wlanhdr` is taken from. -/
def hdrMem : Mem :=
  setFrameSubType (setSeqNum (putBytes (putBytes (putBytes (fun _ => 0) 4 addr1.toList) 10 addr2.toList) 16 addr3.toList)
    0 seq) 0 type

theorem wlanhdr_eq : wlanhdr addr1 addr2 addr3 seq type = bytesAt (hdrMem addr1 addr2 addr3 seq type) 0 24 := rfl

theorem frameOf_header (k : ℕ) (hk : k < 24) : (frameOf (wlanhdr addr1 addr2 addr3 seq type ++ body)).mem k =
    hdrMem addr1 addr2 addr3 seq type k := by
  have hlen : (wlanhdr addr1 addr2 addr3 seq type).length = 24 := bytesAt_length 24
  have hin := putBytes_inside (fun _ => 0) 0 (wlanhdr addr1 addr2 addr3 seq type ++ body) k
    (by rw [List.length_append]; omega)
  rw [zero_add] at hin
  refine hin.trans ?_
  rw [List.getD_append _ _ _ _ (by omega), List.getD_eq_getElem _ _ (by omega)]
  simp [wlanhdr_eq, bytesAt]

theorem frameOf_body (hdr : List UInt8) (hlen : hdr.length = 24) (k : ℕ) (hk : k < body.length) :
    (frameOf (hdr ++ body)).mem (24 + k) = body.getD k 0 := by
  have hin := putBytes_inside (fun _ => 0) 0 (hdr ++ body) (24 + k) (by rw [List.length_append]; omega)
  rw [zero_add] at hin
  refine Eq.trans (by push_cast; rfl) (hin.trans ?_)
  rw [List.getD_append_right _ _ _ _ (by omega), hlen, Nat.add_sub_cancel_left]

theorem hdrMem_addr1 : bytesAt (hdrMem addr1 addr2 addr3 seq type) 4 6 = addr1.toList := by
  have hlen : ∀ v : Vector UInt8 6, v.toList.length = 6 := fun v => v.length_toList
  have hput := bytesAt_eq (m := hdrMem addr1 addr2 addr3 seq type) (p := 4) addr1.toList fun k hk => by
    rw [hlen] at hk
    unfold hdrMem setFrameSubType setSeqNum
    rw [onLe16_outside _ _ _ _ (by omega), onLe16_outside _ _ _ _ (by omega), putBytes_outside _ _ _ _ (by omega),
      putBytes_outside _ _ _ _ (by omega), putBytes_inside _ _ _ _ (by rw [hlen]; exact hk)]
  rw [hlen] at hput
  exact hput

theorem hdrMem_fctrl (htype : type < 2 ^ 16) : le16 (hdrMem addr1 addr2 addr3 seq type) 0 = type := by
  have hzero : le16 (setSeqNum (putBytes (putBytes (putBytes (fun _ => 0) 4 addr1.toList) 10 addr2.toList) 16
      addr3.toList) 0 seq) 0 = 0 := by
    unfold setSeqNum
    rw [le16_onLe16_of_ne _ _ _ _ (by omega), le16, putBytes_outside _ _ _ _ (by omega), putBytes_outside _ _ _ _ (by omega),
      putBytes_outside _ _ _ _ (by omega), putBytes_outside _ _ _ _ (by omega), putBytes_outside _ _ _ _ (by omega),
      putBytes_outside _ _ _ _ (by omega)]
    rfl
  unfold hdrMem setFrameSubType
  rw [le16_onLe16 _ _ _ (by rw [hzero]; simpa using htype), hzero]
  simp

/-- A frame without the bits of the distribution system is for the station in `addr1`. -/
theorem frameOf_getDa (htype : type < 2 ^ 16) (hds : getTofrDs type = 0) :
    (frameOf (wlanhdr addr1 addr2 addr3 seq type ++ body)).getDa = addr1.toList := by
  have haddr : (frameOf (wlanhdr addr1 addr2 addr3 seq type ++ body)).addr1 = addr1.toList := by
    refine Eq.trans (bytesAt_congr 6 fun k hk => ?_) (hdrMem_addr1 addr1 addr2 addr3 seq type)
    have hk' := frameOf_header addr1 addr2 addr3 seq type body (4 + k) (by omega)
    rw [Nat.cast_add] at hk'
    exact hk'
  have hfc : le16 (frameOf (wlanhdr addr1 addr2 addr3 seq type ++ body)).mem 0 = type := by
    refine Eq.trans (le16_congr _ _ 0 ?_ ?_) (hdrMem_fctrl addr1 addr2 addr3 seq type htype)
    · exact frameOf_header addr1 addr2 addr3 seq type body 0 (by omega)
    · exact frameOf_header addr1 addr2 addr3 seq type body 1 (by omega)
  unfold MgmtFrame.getDa
  rw [hfc, hds]
  exact haddr

end Header

/-! ### The fields behind it -/

theorem le16_frameOf (hdr body : List UInt8) (hlen : hdr.length = 24) (k : ℕ) (hk : k + 1 < body.length) :
    le16 (frameOf (hdr ++ body)).mem (24 + k) = (body.getD k 0).toNat + 256 * (body.getD (k + 1) 0).toNat := by
  have hnext := frameOf_body body hdr hlen (k + 1) hk
  have hsum : (24 + ((k + 1 : ℕ) : ℤ)) = 24 + (k : ℤ) + 1 := by
    push_cast
    ring
  rw [hsum] at hnext
  rw [le16, frameOf_body body hdr hlen k (by omega), hnext]

theorem toNat_cpuToLe16 (v : ℕ) (hv : v < 2 ^ 16) :
    (UInt8.ofNat v).toNat + 256 * (UInt8.ofNat (v / 256)).toNat = v := by
  rw [UInt8.toNat_ofNat', UInt8.toNat_ofNat']
  omega

theorem le16_field {hdr body rest : List UInt8} {k v : ℕ} (hlen : hdr.length = 24) (hv : v < 2 ^ 16)
    (hdrop : body.drop k = cpuToLe16 v ++ rest) : le16 (frameOf (hdr ++ body)).mem (24 + k) = v := by
  have hbody := congrArg List.length hdrop
  have htwo : (cpuToLe16 v).length = 2 := rfl
  rw [List.length_drop, List.length_append] at hbody
  have hfirst : body.getD k 0 = UInt8.ofNat v := by
    have h := congrArg (fun l => l.getD 0 0) hdrop
    rwa [List.getD_eq_getElem?_getD, List.getElem?_drop, Nat.add_zero, ← List.getD_eq_getElem?_getD] at h
  have hsecond : body.getD (k + 1) 0 = UInt8.ofNat (v / 256) := by
    have h := congrArg (fun l => l.getD 1 0) hdrop
    rwa [List.getD_eq_getElem?_getD, List.getElem?_drop, ← List.getD_eq_getElem?_getD] at h
  rw [le16_frameOf hdr body hlen k (by omega), hfirst, hsecond, toNat_cpuToLe16 v hv]

section Asocrsp
variable (padapter : RtwAdapter) (c : RspConf) (status aid : ℕ) (pstat : StaInfo) (reassoc : Bool)

def rspType (reassoc : Bool) : ℕ := if reassoc then WIFI_REASSOCRSP else WIFI_ASSOCRSP

def asocrsp : MgmtFrame := frameOf (issueAsocrsp padapter c status aid pstat (rspType reassoc))

theorem asocrsp_getDa : (asocrsp padapter c status aid pstat reassoc).getDa = pstat.hwaddr.toList :=
  frameOf_getDa _ _ _ _ _ _ (by cases reassoc <;> decide) (by cases reassoc <;> decide)

theorem asocrsp_status (hstatus : status < 2 ^ 16) :
    Join.assocStatus (asocrsp padapter c status aid pstat reassoc) = status :=
  le16_field (bytesAt_length 24) hstatus (List.drop_left' c.capability.length_toList)

theorem asocrsp_aid (haid : aid < 2 ^ 14) : Join.assocAid (asocrsp padapter c status aid pstat reassoc) = aid := by
  have hsplit : aid ||| 0xc000 = aid + 0xc000 := by
    rw [Nat.or_comm, Nat.add_comm]
    exact (Nat.two_pow_add_eq_or_of_lt haid 3).symm
  have hle : le16 (asocrsp padapter c status aid pstat reassoc).mem (24 + 4) = aid ||| 0xc000 :=
    le16_field (bytesAt_length 24) (by omega) (by
      rw [← List.append_assoc]
      exact List.drop_left' (by rw [List.length_append, c.capability.length_toList]; rfl))
  have hmask : (aid + 0xc000) &&& 0x3fff = aid := by
    rw [show (0x3fff : ℕ) = 2 ^ 14 - 1 from rfl, Nat.and_two_pow_sub_one_eq_mod]
    omega
  show le16 _ (24 + 4) &&& 0x3fff = aid
  rw [hle, hsplit, hmask]

end Asocrsp

end Link

/-! ## The link -/

/-- The station, the access point, and the association responses it has sent. -/
structure Link where
  sta : Join
  ap : ApHistory
  air : List MgmtFrame := []

namespace Link
open Relation Mem Wifi
variable {G : RtwAdapter → ApEvent → Prop}

/-- The association response with which the access point answers an event. -/
def answer (padapter : RtwAdapter) (c : RspConf) : ApEvent → List MgmtFrame
  | .assocReq req =>
    match onAssocReq padapter req with
    | (padapter, some (.asocrsp psta status aid)) =>
      [asocrsp padapter c status aid (padapter.staInfo psta) req.reassoc]
    | _ => []
  | _ => []

/-- One step. The station may be told to join, may run its timer and may receive any frame, but an association response only
if the access point has sent it, however long ago and however often it came before; the access point takes any event that
`G` lets come. -/
inductive Step (G : RtwAdapter → ApEvent → Prop) : Link → Link → Prop
  | join (l : Link) (pbuf : WlanBssidEx) (now : ℕ) : Step G l { l with sta := l.sta.joinCmdHdl pbuf now }
  | sta (l : Link) (e : Join.Event) (sent : ∀ f, e = .assocRsp f → f ∈ l.air) : Step G l { l with sta := l.sta.step e }
  | ap (l : Link) (e : ApEvent) (c : RspConf) (h' : ApHistory) (allowed : G l.ap.ap e) (event : l.ap.step e = some h') :
    Step G l ⟨l.sta, h', l.air ++ answer l.ap.ap c e⟩

/-- A station that has reported nothing, and an access point that has just been started. -/
def start (sta : Join) (config : RtwAdapter) : Link := ⟨sta, .start config, []⟩

/-! ### What the access point answers -/

/-- The identifiers stay within those that there are. -/
def AidsShort (h : ApHistory) : Prop := ∀ p, (h.ap.staInfo p).aid ≤ NUM_STA

theorem firstFreeAid_short (sp : StaPriv) : 1 ≤ firstFreeAid sp ∧ firstFreeAid sp ≤ NUM_STA := by
  unfold firstFreeAid
  split
  next slot _ => exact ⟨Nat.le_add_left 1 _, slot.isLt⟩
  next => decide

theorem AidsShort.setInfo {h : ApHistory} (short : AidsShort h) (p : StaId) (info : StaInfo) (hinfo : info.aid ≤ NUM_STA)
    {h' : ApHistory} (hstaInfo : h'.ap.stapriv.staInfo = (h.ap.stapriv.setInfo p info).staInfo) : AidsShort h' := by
  intro q
  show (h'.ap.stapriv.staInfo q).aid ≤ NUM_STA
  rw [hstaInfo]
  by_cases hq : q = p
  · rw [hq, setInfo_self]
    exact hinfo
  · rw [setInfo_other _ _ _ _ hq]
    exact short q

theorem AidsShort.step {P : Permits} {h h' : ApHistory} (short : AidsShort h) (step : TableStep P h h') : AidsShort h' := by
  cases step with
  | edit p info same aid authed => exact short.setInfo p info (aid ▸ short p) rfl
  | accept p info record same aid valid => exact short.setInfo p info (aid ▸ short p) rfl
  | alloc hwaddr p stapriv permit missing allocated =>
    obtain ⟨rest, -, rfl⟩ := rtwAllocStainfo_some allocated
    exact short.setInfo p (allocInfo hwaddr) (Nat.zero_le _) rfl
  | free p permit hashed unlisted =>
    have hfreed : ((rtwFreeStainfo h.ap.stapriv p).staInfo p).aid ≤ NUM_STA := by
      by_cases hreleases : h.ap.stapriv.Releases p
      · rw [(rtwFreeStainfo_released _ _ hreleases).1]
        exact Nat.zero_le _
      · rw [(rtwFreeStainfo_kept _ _ hreleases).1]
        exact short p
    intro q
    by_cases hq : q = p
    · subst hq
      exact hfreed
    · exact (congrArg StaInfo.aid (rtwFreeStainfo_info_other _ _ _ hq)).trans_le (short q)
  | authAdd p hashed unlisted unassoc => exact short
  | authDel p listed => exact short
  | asocAdd p hashed unlisted unauth accepted aid => exact short
  | asocDel p listed => exact short
  | takeAid p stapriv hashed aid taken =>
    obtain ⟨-, rfl⟩ := assocAid_some aid taken
    exact short.setInfo p ((h.ap.staInfo p).setAid (firstFreeAid h.ap.stapriv)) (firstFreeAid_short _).2 rfl
  | forgetAid p permit => exact short.setInfo p _ (Nat.zero_le _) rfl
  | caps p x hashed moved => exact short.setInfo p _ (moved.aid ▸ short p) rfl
  | tune ap same =>
    intro q
    exact (congrArg (fun f : StaId → StaInfo => (f q).aid) same.staInfo).trans_le (short q)

theorem AidsShort.run {P : Permits} {h h' : ApHistory} (short : AidsShort h) (run : TableRun P h h') : AidsShort h' := by
  induction run with
  | refl => exact short
  | tail _ step ih => exact ih.step step

/-- Every status fits its field. -/
abbrev Fits16 (x : Checked) : Prop := x.2 < 2 ^ 16

theorem fits16_thenCheck {x : Checked} {check : StaInfo → Checked} (hx : Fits16 x) (hcheck : ∀ y, Fits16 (check y)) :
    Fits16 (thenCheck x check) := by
  unfold thenCheck
  split
  · exact hcheck _
  · exact hx

theorem fits16_ite {p : Prop} [Decidable p] {a b : ℕ} (ha : a < 2 ^ 16) (hb : b < 2 ^ 16) :
    (if p then a else b) < 2 ^ 16 := by
  split
  · exact ha
  · exact hb

theorem fits16_checkSecurity (padapter : RtwAdapter) (elems : Ieee80211Elems) (pstat : StaInfo) :
    Fits16 (checkSecurity padapter elems pstat) := by
  have hcipher : ∀ group pairwise : ℕ, ∀ g p : ℕ, g < 2 ^ 16 → p < 2 ^ 16 → cipherStatus group pairwise g p < 2 ^ 16 := by
    intro group pairwise g p hg hp
    unfold cipherStatus
    split
    · exact hp
    split
    · exact hg
    · decide
  refine fits16_thenCheck ?_ fun y => ?_
  · unfold checkWpa
    dsimp only
    split
    · exact hcipher _ _ _ _ (by decide) (by decide)
    · exact hcipher _ _ _ _ (by decide) (by decide)
    · show WLAN_STATUS_INVALID_IE < 2 ^ 16
      decide
    · show WLAN_STATUS_INVALID_IE < 2 ^ 16
      decide
    · show _STATS_SUCCESSFUL_ < 2 ^ 16
      decide
  · unfold checkWps
    dsimp only
    split
    · split
      · show WLAN_STATUS_INVALID_IE < 2 ^ 16
        decide
      · show _STATS_SUCCESSFUL_ < 2 ^ 16
        decide
    · exact fits16_ite (by decide) (by decide)

theorem fits16_assocChecks (padapter : RtwAdapter) (req : AssocReq) (pstat : StaInfo) :
    Fits16 (assocChecks padapter req pstat) := by
  have helems : ∀ y, Fits16 (checkElems req y) := by
    intro y
    unfold checkElems
    split
    · exact fits16_ite (by decide) (by decide)
    · show _STATS_FAILURE_ < 2 ^ 16
      decide
  have hssid : ∀ y, Fits16 (checkSsid padapter.curSsid req y) := by
    intro y
    unfold checkSsid
    split
    · show _STATS_FAILURE_ < 2 ^ 16
      decide
    · exact fits16_ite (by decide) (by decide)
  have hrates : ∀ y, Fits16 (checkRates req y) := by
    intro y
    unfold checkRates
    split
    · show _STATS_FAILURE_ < 2 ^ 16
      decide
    · show _STATS_SUCCESSFUL_ < 2 ^ 16
      decide
  have hwmm : ∀ y, Fits16 (checkWmm padapter req y) := by
    intro y
    unfold checkWmm
    dsimp only
    split <;> (show _STATS_SUCCESSFUL_ < 2 ^ 16; decide)
  have hht : ∀ y, Fits16 (checkHt padapter (req.elems.getD {}) y) := by
    intro y
    exact fits16_ite (by decide) (by decide)
  have hp2p : ∀ y, Fits16 (checkP2p padapter req y) := by
    intro y
    unfold checkP2p
    split
    · show _STATS_CAP_FAIL_ < 2 ^ 16
      decide
    · show _STATS_SUCCESSFUL_ < 2 ^ 16
      decide
  have herp : ∀ y, Fits16 (updateErp y, _STATS_SUCCESSFUL_) := by
    intro y
    show _STATS_SUCCESSFUL_ < 2 ^ 16
    decide
  refine fits16_thenCheck (fits16_thenCheck (fits16_thenCheck (fits16_thenCheck (fits16_thenCheck (fits16_thenCheck
    (fits16_thenCheck (helems _) hssid) hrates) fun y => ?_) hwmm) hht) herp) hp2p
  exact fits16_checkSecurity padapter _ y

/-- An answer names the identifier of its station; with success it is one of those that there are, and the station is
associated. -/
def Answers (x : RtwAdapter × Option AssocReply) : Prop :=
  ∀ p status aid, x.2 = some (.asocrsp p status aid) →
    status < 2 ^ 16 ∧ aid = (x.1.staInfo p).aid ∧ (status = 0 → p ∈ x.1.stapriv.asocList ∧ 1 ≤ aid)

theorem answers_fail (a : RtwAdapter) (psta : StaId) (pstat : StaInfo) {status : ℕ} (hfits : status < 2 ^ 16)
    (hfails : status ≠ 0) : Answers (onAssocReqFail a psta pstat status) := by
  intro p st aid h
  cases h
  refine ⟨hfits, ?_, fun hzero => absurd hzero hfails⟩
  show 0 = ((a.setInfo psta (pstat.setAid 0)).staInfo psta).aid
  rw [staInfo_setInfo_self]
  rfl

theorem answers_accept (a : RtwAdapter) (psta : StaId) (pstat : StaInfo) : Answers (assocAccept a psta pstat) := by
  unfold assocAccept
  split
  next hnone => exact answers_fail _ _ _ (by decide) (by decide)
  next sp haid =>
    intro p st aid h
    have hjoined := assocJoined_accepted (a.setStapriv sp) psta
    cases h
    have hpos : 1 ≤ (sp.staInfo psta).aid := by
      unfold assocAid at haid
      dsimp only at haid
      split at haid
      next hpos =>
        cases haid
        exact hpos
      next =>
        split at haid
        · cases haid
        · cases haid
          show 1 ≤ ((StaPriv.setInfo _ psta _).staInfo psta).aid
          rw [setInfo_self]
          exact (firstFreeAid_short _).1
    refine ⟨by decide, rfl, fun _ => ⟨?_, hpos.trans_eq hjoined.aid.symm⟩⟩
    refine (congrArg (psta ∈ ·) hjoined.asocList).mpr ?_
    split
    next hin => exact hin
    next => exact List.mem_append_right _ List.mem_cons_self

theorem answers_onAssocReq (a : RtwAdapter) (req : AssocReq) : Answers (onAssocReq a req) := by
  have hdeauth : ∀ addr reason, Answers (a, some (.deauth addr reason)) := fun _ _ _ _ _ h => nomatch h
  have hnone : Answers (a, none) := fun _ _ _ h => nomatch h
  unfold onAssocReq
  dsimp only
  generalize IEEE80211_3ADDR_LEN + (if req.reassoc = true then _REASOCREQ_IE_OFFSET_ else _ASOCREQ_IE_OFFSET_) = least
  split
  · exact hnone
  split
  · exact hnone
  split
  · exact hdeauth _ _
  unfold assocStation
  split
  · exact hdeauth _ _
  dsimp only
  split
  · exact answers_accept _ _ _
  next hbad => exact answers_fail _ _ _ (fits16_assocChecks _ _ _) hbad

/-! ### What the station reports -/

/-- The response lets the station in, under this identifier. -/
def LetsIn (myid : List UInt8) (f : MgmtFrame) (res : ℤ) : Prop :=
  f.getDa = myid ∧ Join.assocStatus f = 0 ∧ res = Join.assocAid f

/-- A step of the station adds nothing that is a success, unless it receives a response that lets it in. -/
theorem sta_reports (s : Join) (e : Join.Event) : (s.step e).myid = s.myid ∧
    ∀ r ∈ (s.step e).reports, r ∈ s.reports ∨ r.1 < 0 ∨ ∃ f, e = .assocRsp f ∧ LetsIn s.myid f r.1 := by
  have hkeep : ∀ r ∈ s.reports, r ∈ s.reports ∨ r.1 < 0 ∨ ∃ f, e = .assocRsp f ∧ LetsIn s.myid f r.1 := fun r hr => .inl hr
  have hfail : ∀ t : Join, t.reports = s.reports → ∀ res : ℤ, res < 0 → ∀ r ∈ (t.reportJoinRes res).reports,
      r ∈ s.reports ∨ r.1 < 0 ∨ ∃ f, e = .assocRsp f ∧ LetsIn s.myid f r.1 := by
    intro t ht res hres r hr
    rcases List.mem_append.mp hr with hold | hnew
    · exact .inl (ht ▸ hold)
    · rw [List.mem_singleton.mp hnew]
      exact .inr (.inl hres)
  have hdisconnect : ∀ macAddr reason, (s.receiveDisconnect macAddr reason).myid = s.myid ∧
      ∀ r ∈ (s.receiveDisconnect macAddr reason).reports,
        r ∈ s.reports ∨ r.1 < 0 ∨ ∃ f, e = .assocRsp f ∧ LetsIn s.myid f r.1 := by
    intro macAddr reason
    unfold Join.receiveDisconnect
    split
    · exact ⟨rfl, hkeep⟩
    split
    · split
      · exact ⟨rfl, hkeep⟩
      split
      · exact ⟨rfl, hfail { s with state := WIFI_FW_NULL_STATE } rfl _ (by decide)⟩
      · exact ⟨rfl, hkeep⟩
    · exact ⟨rfl, hkeep⟩
  have hframe : ∀ f, (s.onDisconnectFrame f).myid = s.myid ∧ ∀ r ∈ (s.onDisconnectFrame f).reports,
      r ∈ s.reports ∨ r.1 < 0 ∨ ∃ f, e = .assocRsp f ∧ LetsIn s.myid f r.1 := by
    intro f
    unfold Join.onDisconnectFrame
    split
    · exact ⟨rfl, hkeep⟩
    · exact hdisconnect _ _
  cases e with
  | beacon f scanning changed now =>
    show (s.onBeacon f scanning changed now).myid = _ ∧ ∀ r ∈ (s.onBeacon f scanning changed now).reports, _
    unfold Join.onBeacon
    split
    · exact ⟨rfl, hkeep⟩
    split
    · split
      · exact ⟨rfl, hkeep⟩
      split
      · split
        · exact hdisconnect _ _
        · exact ⟨rfl, hkeep⟩
      · exact ⟨rfl, hkeep⟩
    · exact ⟨rfl, hkeep⟩
  | auth f now =>
    show (s.onAuthClient f now).myid = _ ∧ ∀ r ∈ (s.onAuthClient f now).reports, _
    unfold Join.onAuthClient
    dsimp only
    split
    · exact ⟨rfl, hkeep⟩
    split
    · exact ⟨rfl, hkeep⟩
    split
    · split <;> exact ⟨rfl, hkeep⟩
    split
    · split
      · split <;> exact ⟨rfl, hkeep⟩
      · exact ⟨rfl, hkeep⟩
    split
    · split <;> exact ⟨rfl, hkeep⟩
    · exact ⟨rfl, hkeep⟩
  | assocRsp f =>
    show (s.onAssocRsp f).myid = _ ∧ ∀ r ∈ (s.onAssocRsp f).reports, _
    unfold Join.onAssocRsp
    dsimp only
    split
    · exact ⟨rfl, hkeep⟩
    next hda =>
    split
    · exact ⟨rfl, hkeep⟩
    split
    · exact ⟨rfl, hkeep⟩
    split
    · exact ⟨rfl, hfail { s.cancelLinkTimer with state := WIFI_FW_NULL_STATE } rfl _ (by decide)⟩
    next hstatus =>
      refine ⟨rfl, fun r hr => ?_⟩
      rcases List.mem_append.mp hr with hold | hnew
      · exact .inl hold
      · rw [List.mem_singleton.mp hnew]
        exact .inr (.inr ⟨f, rfl, (not_not.mp hda).symm, by omega, rfl⟩)
  | deauth f => exact hframe f
  | disassoc f => exact hframe f
  | linkTimer now =>
    cases htimer : s.linkTimer with
    | none =>
      have hsame : s.step (.linkTimer now) = s := by simp only [Join.step, htimer]
      rw [hsame]
      exact ⟨rfl, hkeep⟩
    | some expires =>
    have hstep : s.step (.linkTimer now) = if expires ≤ now then s.cancelLinkTimer.linkTimerHdl now else s := by
      simp only [Join.step, htimer]
    rw [hstep]
    split
    · unfold Join.linkTimerHdl
      dsimp only
      split
      · exact ⟨rfl, hfail { s.cancelLinkTimer with state := WIFI_FW_NULL_STATE } rfl _ (by decide)⟩
      split
      · split
        · exact ⟨rfl, hfail { s.cancelLinkTimer with state := 0, reauthCount := _ } rfl _ (by decide)⟩
        · exact ⟨rfl, hkeep⟩
      split
      · split
        · exact ⟨rfl, hfail { s.cancelLinkTimer with state := WIFI_FW_NULL_STATE, reassocCount := _ } rfl _ (by decide)⟩
        · exact ⟨rfl, hkeep⟩
      · exact ⟨rfl, hkeep⟩
    · exact ⟨rfl, hkeep⟩

/-! ### Runs -/

/-- The station with this address is associated under the identifier, after an authentication that was accepted. -/
def Granted (myid : List UInt8) (res : ℤ) (h : ApHistory) : Prop :=
  ∃ p ∈ h.ap.stapriv.asocList, (h.ap.staInfo p).hwaddr.toList = myid ∧ res = (h.ap.staInfo p).aid ∧
    1 ≤ res ∧ res ≤ NUM_STA ∧ h.accepted p ≠ none

/-- It was so at the access point when the run had come to some state on its way. -/
def Before (G : RtwAdapter → ApEvent → Prop) (s l : Link) (P : ApHistory → Prop) : Prop :=
  ∃ m, ReflTransGen (Step G) s m ∧ ReflTransGen (Step G) m l ∧ P m.ap

theorem Before.tail {s l l' : Link} {P : ApHistory → Prop} (h : Before G s l P) (step : Step G l l') : Before G s l' P := by
  obtain ⟨m, hto, hfrom, hm⟩ := h
  exact ⟨m, hto, hfrom.tail step, hm⟩

/-- What a run from `s` keeps: the table of the access point is well formed, and behind every response on the air that lets
the station in, and behind every success it has reported, the access point had let it in. -/
structure Inv (G : RtwAdapter → ApEvent → Prop) (s l : Link) : Prop where
  wf : l.ap.Wf
  short : AidsShort l.ap
  myid : l.sta.myid = s.sta.myid
  air : ∀ f ∈ l.air, ∀ res, LetsIn s.sta.myid f res → Before G s l (Granted s.sta.myid res)
  reports : ∀ r ∈ l.sta.reports, 0 ≤ r.1 → Before G s l (Granted s.sta.myid r.1)

theorem granted_of_answer {h h' : ApHistory} {e : ApEvent} (wf' : h'.Wf) (short' : AidsShort h') (event : h.step e = some h')
    (c : RspConf) {f : MgmtFrame} (hf : f ∈ answer h.ap c e) {myid : List UInt8} {res : ℤ} (lets : LetsIn myid f res) :
    Granted myid res h' := by
  cases e with
  | assocReq req =>
    have happ : h' = { h with ap := (onAssocReq h.ap req).1 } := (Option.some.inj event).symm
    rcases hx : onAssocReq h.ap req with ⟨a', reply⟩
    have hanswers := answers_onAssocReq h.ap req
    rw [hx] at happ hanswers
    simp only [answer, hx] at hf
    match reply, hf with
    | some (.asocrsp p status aid), hf =>
      obtain ⟨hfits, haid, hin⟩ := hanswers p status aid rfl
      obtain ⟨hda, hstatus, hres⟩ := lets
      rw [List.mem_singleton.mp hf] at hda hstatus hres
      rw [asocrsp_status _ _ _ _ _ _ hfits] at hstatus
      obtain ⟨hmem, hpos⟩ := hin hstatus
      have hle : aid ≤ NUM_STA := by
        have hshort := short' p
        rw [happ] at hshort
        exact haid.trans_le hshort
      rw [asocrsp_aid _ _ _ _ _ _ (hle.trans_lt (by decide))] at hres
      rw [asocrsp_getDa] at hda
      have hmem' : p ∈ h'.ap.stapriv.asocList := by
        rw [happ]
        exact hmem
      refine ⟨p, hmem', ?_, ?_, by omega, by omega, wf'.auth.asocAccepted p hmem'⟩
      · rw [happ]
        exact hda
      · rw [happ, hres, haid]
  | _ => cases hf

theorem Inv.step {s l l' : Link} (run : ReflTransGen (Step G) s l) (inv : Inv G s l) (step : Step G l l') : Inv G s l' := by
  have hlater : ∀ P, Before G s l P → Before G s l' P := fun P h => h.tail step
  cases step with
  | join pbuf now =>
    have hjoin : (l.sta.joinCmdHdl pbuf now).myid = l.sta.myid ∧ (l.sta.joinCmdHdl pbuf now).reports = l.sta.reports := by
      unfold Join.joinCmdHdl Join.startClntJoin
      dsimp only
      split <;> split <;> (try split) <;> exact ⟨rfl, rfl⟩
    refine ⟨inv.wf, inv.short, hjoin.1.trans inv.myid, fun f hf res h => hlater _ (inv.air f hf res h), fun r hr hpos => ?_⟩
    exact hlater _ (inv.reports r (hjoin.2 ▸ hr) hpos)
  | sta e sent =>
    obtain ⟨hmyid, hreports⟩ := sta_reports l.sta e
    refine ⟨inv.wf, inv.short, hmyid.trans inv.myid, fun f hf res h => hlater _ (inv.air f hf res h), fun r hr hpos => ?_⟩
    rcases hreports r hr with hold | hneg | ⟨f, he, lets⟩
    · exact hlater _ (inv.reports r hold hpos)
    · omega
    · rw [inv.myid] at lets
      exact hlater _ (inv.air f (sent f he) r.1 lets)
  | ap e c h' allowed event =>
    obtain ⟨h'', hstep, htable⟩ := l.ap.step_run inv.wf e
    have hsame : h'' = h' := Option.some.inj (hstep.symm.trans event)
    rw [hsame] at htable
    have hwf := inv.wf.run htable
    have hshort := inv.short.run htable
    refine ⟨hwf, hshort, inv.myid, fun f hf res lets => ?_, fun r hr hpos => hlater _ (inv.reports r hr hpos)⟩
    rcases List.mem_append.mp hf with hold | hnew
    · exact hlater _ (inv.air f hold res lets)
    · exact ⟨_, run.tail (.ap l e c h' allowed event), .refl, granted_of_answer hwf hshort event c hnew lets⟩

def sampleAuth : ApHistory :=
  let x := onAuth (ApHistory.start namedAp).ap ⟨sampleAddr, 0, 1, none⟩
  (ApHistory.start namedAp).recordAuth ⟨sampleAddr, 0, 1, none⟩ x.1 x.2

end Link
end Rtl8723au
