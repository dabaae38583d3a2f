import Rtl8723au.Ap.Handlers
import Rtl8723au.Mlme.JoinRequestHandlers

/-! A join result, and the runs of a station that joins and leaves networks in which the bookkeeping holds. -/
namespace Rtl8723au
open GuardedRuns
set_option autoImplicit false

/-! ## The entry of a network that is joined -/

/-- The table has an entry for the address, where it is looked up. -/
def StaPriv.Holds (sp : StaPriv) (addr : MacAddr) : Prop :=
  ∃ p ∈ sp.staHash (wifiMacHash addr), (sp.staInfo p).hwaddr = addr

theorem isSome_rtwGetStainfo {sp : StaPriv} {mac : MacAddr} :
    (rtwGetStainfo sp (some mac)).isSome = true ↔ sp.Holds (MlmeJoin.lookedUp mac) := by
  unfold rtwGetStainfo StaPriv.Holds MlmeJoin.lookedUp
  rw [List.find?_isSome]
  constructor
  · rintro ⟨p, hp, hmac⟩
    exact ⟨p, hp, beq_iff_eq.mp hmac⟩
  · rintro ⟨p, hp, hmac⟩
    exact ⟨p, hp, beq_iff_eq.mpr hmac⟩

/-- A new entry is found under its address, and the others are found as before. -/
theorem StaWf.alloc {sp : StaPriv} (wf : StaWf sp) {p : StaId} {rest : List StaId} (hfree : sp.freeStaQueue = p :: rest)
    {tp : StaPriv} {hwaddr : MacAddr}
    (htp : tp = ((sp.setFreeStaQueue rest).setInfo p (allocInfo hwaddr)).hashAdd (wifiMacHash hwaddr) p) :
    StaWf tp ∧ tp.Holds hwaddr ∧ ∀ addr, sp.Holds addr → tp.Holds addr := by
  have hlinks : tp.links = sp.links.alloc p rest (wifiMacHash hwaddr) := by
    rw [htp]
    rfl
  have hnew : (tp.staInfo p).hwaddr = hwaddr := by
    rw [htp]
    show (((sp.setFreeStaQueue rest).setInfo p (allocInfo hwaddr)).staInfo p).hwaddr = hwaddr
    rw [setInfo_self]
    rfl
  have hother : ∀ q, q ≠ p → (tp.staInfo q).hwaddr = (sp.staInfo q).hwaddr := by
    intro q hq
    rw [htp]
    show (((sp.setFreeStaQueue rest).setInfo p (allocInfo hwaddr)).staInfo q).hwaddr = _
    rw [setInfo_other _ _ _ _ hq]
    rfl
  have hmac : (fun q => (tp.staInfo q).hwaddr) = Function.update (fun q => (sp.staInfo q).hwaddr) p hwaddr := by
    funext q
    by_cases hq : q = p
    · subst hq
      rw [Function.update_self, hnew]
    · rw [Function.update_of_ne hq, hother q hq]
  have hplaced : ∀ q j, q ∈ tp.staHash j ↔ q ∈ sp.staHash j ∨ (q = p ∧ j = wifiMacHash hwaddr) := by
    intro q j
    show q ∈ tp.links.staHash j ↔ _
    rw [hlinks]
    exact TableLinks.mem_alloc_staHash
  refine ⟨?_, ⟨p, (hplaced p _).mpr (.inr ⟨rfl, rfl⟩), hnew⟩, ?_⟩
  · show TableWf tp.links fun q => (tp.staInfo q).hwaddr
    rw [hlinks, hmac]
    exact TableWf.alloc wf hfree hwaddr
  · rintro addr ⟨q, hq, haddr⟩
    have hp : p ∈ sp.freeStaQueue := by
      rw [hfree]
      exact List.mem_cons_self
    have hne : q ≠ p := by
      rintro rfl
      exact wf.freeUnhashed q hp _ hq
    exact ⟨q, (hplaced q _).mpr (.inl hq), (hother q hne).trans haddr⟩

namespace MlmeJoin

variable {s t u : MlmeJoin}

theorem lookedUp_lookedUp (mac : MacAddr) : lookedUp (lookedUp mac) = lookedUp mac := by
  unfold lookedUp
  cases h : isMulticastEtherAddr mac with
  | true => rw [if_pos rfl, ite_self]
  | false => rw [if_neg Bool.false_ne_true, h, if_neg Bool.false_ne_true]

theorem setIds_spec (sp : StaPriv) (p : StaId) (r : JoinResult) :
    (StaWf sp → StaWf (sp.setInfo p { sp.staInfo p with aid := r.joinRes.toNat, macId := 0 })) ∧
      ∀ addr, sp.Holds addr → (sp.setInfo p { sp.staInfo p with aid := r.joinRes.toNat, macId := 0 }).Holds addr := by
  have hmac : ∀ q, ((sp.setInfo p { sp.staInfo p with aid := r.joinRes.toNat, macId := 0 }).staInfo q).hwaddr =
      (sp.staInfo q).hwaddr := by
    intro q
    by_cases hq : q = p
    · subst hq
      rw [setInfo_self]
    · rw [setInfo_other _ _ _ _ hq]
  constructor
  · intro wf
    show TableWf sp.links fun q => _
    rw [funext hmac]
    exact wf
  · rintro addr ⟨q, hq, haddr⟩
    exact ⟨q, hq, (hmac q).trans haddr⟩

/-- What `rtw_joinbss_update_stainfo` does to the table of stations. -/
structure Updated (sp : StaPriv) (r : JoinResult) (x : StaPriv × Bool) : Prop where
  wf : StaWf x.1
  holds : ∀ addr, sp.Holds addr → x.1.Holds addr
  answer : x.2 = true ↔
    (rtwGetStainfo sp (some r.network.macAddress)).isSome = true ∨ sp.freeStaQueue ≠ []
  entry : x.2 = true → ∀ mac, lookedUp mac = r.network.macAddress → x.1.Holds (lookedUp mac)

theorem rtwJoinbssUpdateStainfo_spec {sp : StaPriv} (wf : StaWf sp) (r : JoinResult) :
    Updated sp r (rtwJoinbssUpdateStainfo sp r) := by
  unfold rtwJoinbssUpdateStainfo
  cases hfind : rtwGetStainfo sp (some r.network.macAddress) with
  | some p =>
    obtain ⟨hsetWf, hsetHolds⟩ := setIds_spec sp p r
    have hfound : (rtwGetStainfo sp (some r.network.macAddress)).isSome = true := by
      rw [hfind]
      rfl
    refine ⟨hsetWf wf, hsetHolds, ⟨fun _ => .inl hfound, fun _ => rfl⟩, fun _ mac hmac => hsetHolds _ ?_⟩
    rw [← lookedUp_lookedUp, hmac]
    exact isSome_rtwGetStainfo.mp hfound
  | none =>
    have hmissing : ¬(rtwGetStainfo sp (some r.network.macAddress)).isSome = true := by
      rw [hfind]
      exact Bool.false_ne_true
    unfold rtwAllocStainfo
    cases hfree : sp.freeStaQueue with
    | nil =>
      refine ⟨wf, fun _ h => h, ⟨fun h => Bool.noConfusion h, fun h => ?_⟩, fun h => Bool.noConfusion h⟩
      exact absurd hfree (h.resolve_left hmissing)
    | cons p rest =>
      have hroom : sp.freeStaQueue ≠ [] := by
        rw [hfree]
        exact List.cons_ne_nil p rest
      dsimp only
      generalize htp : ((sp.setFreeStaQueue rest).setInfo p (allocInfo r.network.macAddress)).hashAdd
        (wifiMacHash r.network.macAddress) p = tp
      obtain ⟨hwf, hnew, hold⟩ := wf.alloc hfree htp.symm
      obtain ⟨hsetWf, hsetHolds⟩ := setIds_spec tp p r
      refine ⟨hsetWf hwf, fun addr h => hsetHolds addr (hold addr h), ⟨fun _ => .inr hroom, fun _ => rfl⟩,
        fun _ mac hmac => hsetHolds _ ?_⟩
      rw [hmac]
      exact hnew

/-! ## A join result -/

theorem updateNetwork_bits (t : Scanned) (ptargetWlan : NetId) (r : JoinResult) :
    (rtwJoinbssUpdateNetwork t ptargetWlan r).bits = { linking := false, linked := false, survey := false, mode :=
      if r.network.infrastructureMode = Ndis802_11Infrastructure then BitVec.ofNat 32 WIFI_STATION_STATE
      else if r.network.infrastructureMode = Ndis802_11IBSS then BitVec.ofNat 32 WIFI_ADHOC_STATE else 0 } := by
  unfold rtwJoinbssUpdateNetwork Scanned.rtwJoinbssUpdateNetwork Scanned.bits Scanned.checkFwstate
  dsimp only
  split_ifs <;> rfl

/-- The network that is joined has been copied; its station gets an entry. -/
theorem networkJoined_handled {r : JoinResult} (hlinking : s.bits.linking = false) (hlinked : s.bits.linked = false)
    (hwf : StaWf s.stapriv) (hmode : s.checkFwstate WIFI_STATION_STATE = true ↔
      r.network.infrastructureMode = Ndis802_11Infrastructure)
    (hsafe : if r.network.infrastructureMode = Ndis802_11Infrastructure ∧
        ((rtwGetStainfo s.stapriv (some r.network.macAddress)).isSome = true ∨ s.stapriv.freeStaQueue ≠ [])
      then (rtwGetStainfo s.stapriv (some s.curMac)).isSome = true ∨ lookedUp s.curMac = r.network.macAddress
      else s.toJoin = false) :
    Handled s (if s.checkFwstate WIFI_STATION_STATE then
        match rtwJoinbssUpdateStainfo s.stapriv r with
        | (sp, false) => { s with stapriv := sp }
        | (sp, true) => ({ s with stapriv := sp }.rtwIndicateConnect).setAssocTimer false
      else s.setAssocTimer false) := by
  have hup := rtwJoinbssUpdateStainfo_spec hwf r
  by_cases hstation : s.checkFwstate WIFI_STATION_STATE = true
  · have hinfra := hmode.mp hstation
    rw [if_pos hstation]
    generalize rtwJoinbssUpdateStainfo s.stapriv r = x at hup
    obtain ⟨sp, updated⟩ := x
    cases updated with
    | false =>
      have hno : ¬(r.network.infrastructureMode = Ndis802_11Infrastructure ∧
          ((rtwGetStainfo s.stapriv (some r.network.macAddress)).isSome = true ∨ s.stapriv.freeStaQueue ≠ [])) :=
        fun hboth => Bool.false_ne_true (hup.answer.mpr hboth.2)
      rw [if_neg hno] at hsafe
      refine ⟨inv_of_left hlinking hlinked (fun ht => ?_) hup.wf, rfl, rfl⟩
      exact absurd (hsafe.symm.trans ht) Bool.false_ne_true
    | true =>
      have hboth : r.network.infrastructureMode = Ndis802_11Infrastructure ∧
          ((rtwGetStainfo s.stapriv (some r.network.macAddress)).isSome = true ∨ s.stapriv.freeStaQueue ≠ []) :=
        ⟨hinfra, hup.answer.mp rfl⟩
      rw [if_pos hboth] at hsafe
      have hholds : sp.Holds (lookedUp s.curMac) :=
        hsafe.elim (fun hold => hup.holds _ (isSome_rtwGetStainfo.mp hold)) (hup.entry rfl s.curMac)
      have hbits : (({ s with stapriv := sp }.rtwIndicateConnect).setAssocTimer false).bits =
          { s.bits with linked := true } := s.scanned.bits_connect
      have hidle : (({ s with stapriv := sp }.rtwIndicateConnect).setAssocTimer false).bits.linking = false := by
        rw [hbits]
        exact hlinking
      refine ⟨⟨fun ht => ?_, fun ht => ?_, fun ht => ?_, fun _ => isSome_rtwGetStainfo.mpr hholds, hup.wf⟩, rfl, rfl⟩
      · exact absurd (hidle.symm.trans ht) Bool.false_ne_true
      · exact absurd (hidle.symm.trans ht) Bool.false_ne_true
      · exact Bool.noConfusion ht
  · have hno : ¬(r.network.infrastructureMode = Ndis802_11Infrastructure ∧
        ((rtwGetStainfo s.stapriv (some r.network.macAddress)).isSome = true ∨ s.stapriv.freeStaQueue ≠ [])) :=
      fun hboth => hstation (hmode.mpr hboth.1)
    rw [if_neg hno] at hsafe
    rw [if_neg hstation]
    refine ⟨inv_of_left hlinking hlinked (fun ht => ?_) hwf, rfl, rfl⟩
    exact absurd (hsafe.symm.trans ht) Bool.false_ne_true

theorem joinSucceeded_handled (hs : StationMode s) (h : Inv s) (r : JoinResult) (hpos : 0 < r.joinRes)
    (safe : s.SafeResult r) : Handled s (s.joinSucceeded r) := by
  unfold joinSucceeded
  cases hlinking : s.checkFwstate WIFI_UNDER_LINKING with
  | false =>
    rw [if_neg Bool.false_ne_true]
    exact ⟨h, rfl, rfl⟩
  | true =>
    have hlinked : s.checkFwstate WIFI_ASOC_STATE = false := h.apart hlinking
    have hstay : s.freePcurSta r = s := by
      unfold freePcurSta
      rw [hlinked, Bool.false_and, if_neg Bool.false_ne_true]
    have htarget : s.scanned.joinTarget r.network = (s.scanned.rtwFindNetwork r.network.macAddress,
        s.scanned.markFixed (s.scanned.rtwFindNetwork r.network.macAddress) true) := by
      have hlinked' : s.scanned.checkFwstate WIFI_ASOC_STATE = false := hlinked
      have hstation : s.scanned.checkFwstate WIFI_STATION_STATE = true := hs.station
      unfold Scanned.joinTarget
      dsimp only
      rw [hlinked', Bool.false_and, if_neg Bool.false_ne_true, if_neg Bool.false_ne_true, hstation, if_pos rfl]
    rw [if_pos rfl]
    dsimp only
    rw [hstay, htarget]
    cases hfind : s.scanned.rtwFindNetwork r.network.macAddress with
    | none =>
      exact ⟨h.of_same rfl rfl id rfl rfl, rfl, rfl⟩
    | some ptargetWlan =>
      let v : MlmeJoin :=
        { s with
          scanned := rtwJoinbssUpdateNetwork (s.scanned.markFixed (some ptargetWlan) true) ptargetWlan r }
      have hbits := updateNetwork_bits (s.scanned.markFixed (some ptargetWlan) true) ptargetWlan r
      have hlinking' : v.bits.linking = false := congrArg FwBits.linking hbits
      have hlinked' : v.bits.linked = false := congrArg FwBits.linked hbits
      have hmode : v.checkFwstate WIFI_STATION_STATE = true ↔
          r.network.infrastructureMode = Ndis802_11Infrastructure := by
        have hcheck := v.scanned.checkFwstate_mode (k := WIFI_STATION_STATE) (by decide)
        rw [show v.scanned.bits = _ from hbits] at hcheck
        rw [show v.checkFwstate WIFI_STATION_STATE = _ from hcheck]
        by_cases hinfra : r.network.infrastructureMode = Ndis802_11Infrastructure
        · simp only [hinfra, if_true, iff_true]
          decide
        · simp only [hinfra, if_false, iff_false]
          split_ifs <;> decide
      have hfound : (s.scanned.rtwFindNetwork r.network.macAddress).isSome = true := by
        rw [hfind]
        rfl
      have hdone := networkJoined_handled (s := v) hlinking' hlinked' h.wf hmode (safe.2 hpos hlinking hfound)
      exact ⟨hdone.inv, hdone.lock, hdone.disassociated⟩

theorem rtwJoinbssEventPrehandle_handled (hs : StationMode s) (h : Inv s) (r : JoinResult) (safe : s.SafeResult r) :
    Handled s (s.rtwJoinbssEventPrehandle r) := by
  unfold rtwJoinbssEventPrehandle
  rw [safe.1, if_neg Bool.false_ne_true]
  refine Handled.locked ?_
  split
  · rename_i hpos
    have hlock : StationMode s.spinLockBh := hs
    have hsafe : s.spinLockBh.SafeResult r := safe
    exact joinSucceeded_handled hlock h.spinLockBh r hpos hsafe
  · have hclr : ((s.spinLockBh.setAssocTimer true).clrFwstate WIFI_UNDER_LINKING).bits =
        { s.bits with linking := false } := s.scanned.bits_clrLinking
    refine ⟨⟨fun _ => rfl, fun ht => ?_, fun ht => ?_, fun ht => ?_, h.wf⟩, rfl, rfl⟩
    · rw [hclr] at ht
      exact Bool.noConfusion ht
    · rw [hclr]
      exact h.pending ht
    · rw [hclr] at ht
      exact h.entry ht

/-! ## Runs -/

/-- What holds in every state of a run whose events are safe. -/
structure Kempt (s : MlmeJoin) : Prop where
  inv : Inv s
  released : s.lock = 0

theorem Kempt.booked (h : s.Kempt) : s.Booked := ⟨h.released, h.inv.armed, h.inv.pending, h.inv.entry⟩

theorem Handled.kempt (h : s.Kempt) (hdone : Handled s t) : t.Kempt := ⟨hdone.inv, hdone.lock.trans h.released⟩

theorem Kempt.setDisassociated (h : s.Kempt) (disassociated : Bool) : { s with disassociated := disassociated }.Kempt :=
  ⟨h.inv.of_same rfl rfl id rfl rfl, h.released⟩

theorem rtwSetRoaming_handled (h : Inv s) (toRoaming : ℕ) : Handled s (s.rtwSetRoaming toRoaming) := by
  refine ⟨h.of_same rfl rfl (fun ht => ?_) rfl rfl, rfl, rfl⟩
  have hjoin : (if toRoaming = 0 then false else s.toJoin) = true := ht
  split_ifs at hjoin
  exact hjoin

theorem Kempt.handle (h : s.Kempt) (hs : StationMode s) {event : JoinEvent} (safe : s.Safe event) :
    (s.handle event).Kempt := by
  cases event with
  | setBssid bssid tkip env =>
    have h' := h.setDisassociated false
    have hs' : StationMode { s with disassociated := false } := hs
    exact (rtwSet80211Bssid_handled hs' h'.inv bssid tkip env).kempt h'
  | setSsid ssid hwInitCompleted sameIbss tkip env =>
    have h' := h.setDisassociated false
    have hs' : StationMode { s with disassociated := false } := hs
    exact (rtwSet80211Ssid_handled hs' h'.inv ssid hwInitCompleted sameIbss tkip env).kempt h'
  | disassociate => exact ((rtwSet80211Disassociate_handled hs h.inv).kempt h).setDisassociated true
  | scan hwInitCompleted busyTraffic scanDeny env =>
    exact (rtwSet80211BssidListScan_handled h.inv hwInitCompleted busyTraffic scanDeny env).kempt h
  | findPhase env => exact (findPhaseHandler_handled h.inv env safe).kempt h
  | survey pnetwork now => exact (rtwSurveyEventCallback_handled hs h.inv pnetwork now).kempt h
  | surveyDone select survey => exact (rtwSurveydoneEventCallback_handled hs h.inv select survey).1.kempt h
  | scanTimeout => exact (rtwScanTimeoutHandler_handled h.inv safe).kempt h
  | joinResult r => exact (rtwJoinbssEventPrehandle_handled hs h.inv r safe).kempt h
  | staDel macaddr reason env => exact (rtwStadelEventCallback_handled hs h.inv macaddr reason env).1.kempt h
  | joinTimeout env => exact (rtwJoinTimeoutHandler_handled hs h.inv env).1.kempt h
  | setRoaming toRoaming => exact (rtwSetRoaming_handled h.inv toRoaming).kempt h
  | roaming env => exact (rtwRoaming_handled hs h.inv env).1.kempt h

theorem joinSucceeded_joinCmds (s : MlmeJoin) (r : JoinResult) : (s.joinSucceeded r).joinCmds = s.joinCmds := by
  have hfree : (s.freePcurSta r).joinCmds = s.joinCmds := by
    unfold freePcurSta
    split <;> rfl
  unfold joinSucceeded
  split
  · dsimp only
    split
    · exact hfree
    · split
      · split
        · exact hfree
        · exact hfree
      · exact hfree
  · rfl

/-- An event other than a request issues no join command when it is safe and the last request was to disassociate. -/
theorem Kempt.staysDisassociated (h : s.Kempt) (hs : StationMode s) {event : JoinEvent} (safe : s.Safe event) :
    s.StaysDisassociated event := by
  intro hdis hother
  cases event with
  | setBssid bssid tkip env => cases hother
  | setSsid ssid hwInitCompleted sameIbss tkip env => cases hother
  | disassociate =>
    have hlock : StationMode s.spinLockBh := hs
    show (if s.spinLockBh.checkFwstate WIFI_ASOC_STATE then s.spinLockBh.leaves else s.spinLockBh).joinCmds = s.joinCmds
    split
    · exact (leaves_spec hlock).2.1.joinCmds
    · rfl
  | scan hwInitCompleted busyTraffic scanDeny env =>
    show (s.rtwSet80211BssidListScan hwInitCompleted busyTraffic scanDeny env).joinCmds = s.joinCmds
    unfold rtwSet80211BssidListScan
    split_ifs
    · rfl
    · rfl
    · rfl
    · exact (rtwSitesurveyCmd_spec s.spinLockBh env).same.joinCmds
  | findPhase env => exact (rtwSitesurveyCmd_spec s.spinLockBh env).same.joinCmds
  | survey pnetwork now =>
    show (s.rtwSurveyEventCallback pnetwork now).joinCmds = s.joinCmds
    unfold rtwSurveyEventCallback MlmeJoin.locked
    dsimp only
    split_ifs <;> rfl
  | surveyDone select survey =>
    exact (rtwSurveydoneEventCallback_handled hs h.inv select survey).2 (safe hdis)
  | scanTimeout => rfl
  | joinResult r =>
    show (s.rtwJoinbssEventPrehandle r).joinCmds = s.joinCmds
    unfold rtwJoinbssEventPrehandle
    split
    · rfl
    · show (if 0 < r.joinRes then s.spinLockBh.joinSucceeded r
        else (s.spinLockBh.setAssocTimer true).clrFwstate WIFI_UNDER_LINKING).joinCmds = s.joinCmds
      split
      · exact joinSucceeded_joinCmds s.spinLockBh r
      · rfl
  | staDel macaddr reason env =>
    have hstill : (s.staDelRoaming reason).disassociated = true := (staDelRoaming_same s reason).1.disassociated.trans hdis
    exact (rtwStadelEventCallback_handled hs h.inv macaddr reason env).2 (safe hstill)
  | joinTimeout env => exact (rtwJoinTimeoutHandler_handled hs h.inv env).2 (safe hdis)
  | setRoaming toRoaming => rfl
  | roaming env => exact (rtwRoaming_handled hs h.inv env).2 (safe hdis)

theorem start_kempt (config : MlmeJoin) : (start config).Kempt := by
  have hclear : ∀ k, BitVec.ofNat 32 WIFI_STATION_STATE &&& BitVec.ofNat 32 k = 0 →
      (start config).checkFwstate k = false := fun k hk => bne_eq_false_iff_eq.mpr hk
  have hwf : StaWf (start config).stapriv := (start_wf {}).table
  exact ⟨inv_of_left (hclear WIFI_UNDER_LINKING (by decide)) (hclear WIFI_ASOC_STATE (by decide))
    (fun h => Bool.noConfusion h) hwf, rfl⟩

/-- In every run in station mode whose events are safe the bookkeeping holds in every state, and after a disassociate
request nothing but the next request issues a join command. -/
theorem join_booked (config : MlmeJoin) (events : List JoinEvent)
    (safe : Meets step (fun s event => s.StationMode ∧ s.Safe event) (start config) events) :
    Always step Booked (start config) events ∧ Meets step StaysDisassociated (start config) events := by
  have hkeep : ∀ (s : MlmeJoin) (event : JoinEvent) (s' : MlmeJoin), s.Kempt → s.StationMode ∧ s.Safe event →
      s.step event = some s' → s'.Kempt := by
    rintro s event s' h ⟨hs, hsafe⟩ hstep
    cases hstep
    exact h.handle hs hsafe
  exact ⟨.of_inv hkeep (fun s h => h.booked) (start_kempt config) safe,
    safe.of_inv hkeep (fun s event h hsafe => h.staysDisassociated hsafe.1 hsafe.2) (start_kempt config)⟩

instance (s : MlmeJoin) : Decidable s.StationMode := inferInstanceAs (Decidable (_ = _))

instance (s : MlmeJoin) (r : JoinResult) : Decidable (s.SafeResult r) := inferInstanceAs (Decidable (_ ∧ _))

/-- A network is asked for, found by a survey and joined. -/
def joiningEvents : List JoinEvent :=
  [.setBssid (Scanned.sampleBss 1).macAddress {} {}, .survey (Scanned.sampleBss 1) 5, .surveyDone {} {},
    .joinResult ⟨1, Scanned.sampleBss 1, 0⟩]

/-- Nothing has been done yet, and there is no network. -/
def sampleClient : MlmeJoin := { scanned := Scanned.rtwInitMlmePriv }

theorem join_booked_joined :
    Meets step (fun s event => s.StationMode ∧ s.Safe event) (start sampleClient) joiningEvents ∧
      Always step Booked (start sampleClient) joiningEvents ∧
      Meets step StaysDisassociated (start sampleClient) joiningEvents := by
  have hmode : Meets step (fun s _ => s.StationMode) (start sampleClient) joiningEvents := by decide +kernel
  obtain ⟨h0, h1, h2, h3, -⟩ := hmode
  have hresult : (run step (start sampleClient) (joiningEvents.take 3)).map
      (fun s => decide (s.SafeResult ⟨1, Scanned.sampleBss 1, 0⟩)) = some true := by
    decide +kernel
  have hsafe : SafeResult _ ⟨1, Scanned.sampleBss 1, 0⟩ := of_decide_eq_true (Option.some.inj hresult)
  have safe : Meets step (fun s event => s.StationMode ∧ s.Safe event) (start sampleClient) joiningEvents :=
    ⟨⟨h0, trivial⟩, ⟨h1, trivial⟩, ⟨h2, fun hdis => Bool.noConfusion hdis⟩, ⟨h3, hsafe⟩, trivial⟩
  exact ⟨safe, join_booked sampleClient joiningEvents safe⟩

/-- A network is asked for during a survey that times out, the station is told to disassociate, and the next survey
finds the network. -/
def revivedEvents : List JoinEvent :=
  [.scan true false false {}, .setBssid (Scanned.sampleBss 1).macAddress {} {}, .scanTimeout, .disassociate,
    .scan true false false {}, .survey (Scanned.sampleBss 1) 5, .surveyDone {} {}]

/-- The join result has a record that is one byte longer than the longest. -/
def tooLongEvents : List JoinEvent := [.joinResult ⟨1, Scanned.sampleBss 1, 769⟩]

/-- A record that is too long unlocks what is not locked; a request that is pending when the survey times out stays
pending, and the end of another survey takes it up although the station has been told to disassociate. -/
theorem join_booked_fails :
    (¬ ∀ (config : MlmeJoin) (events : List JoinEvent), Meets step (fun s _ => s.StationMode) (start config) events →
      Always step (fun s => s.lock = 0) (start config) events) ∧
    (¬ ∀ (config : MlmeJoin) (events : List JoinEvent), Meets step (fun s _ => s.StationMode) (start config) events →
      Always step (fun s => s.toJoin = true → s.checkFwstate WIFI_SITE_MONITOR = true) (start config) events) ∧
    ¬ ∀ (config : MlmeJoin) (events : List JoinEvent), Meets step (fun s _ => s.StationMode) (start config) events →
      Meets step StaysDisassociated (start config) events := by
  refine ⟨fun h => ?_, fun h => ?_, fun h => ?_⟩
  · have hlock : (run step (start sampleClient) tooLongEvents).map (·.lock) = some (-1) := by decide +kernel
    obtain ⟨s, hrun, hs⟩ := Option.map_eq_some_iff.mp hlock
    have hzero := (h sampleClient tooLongEvents (by decide +kernel)).last hrun
    rw [hs] at hzero
    cases hzero
  · have hleft : (run step (start sampleClient) (revivedEvents.take 3)).map
        (fun s => (s.toJoin, s.checkFwstate WIFI_SITE_MONITOR)) = some (true, false) := by
      decide +kernel
    obtain ⟨s, hrun, hs⟩ := Option.map_eq_some_iff.mp hleft
    have hpending := (h sampleClient (revivedEvents.take 3) (by decide +kernel)).last hrun (congrArg Prod.fst hs)
    exact Bool.false_ne_true ((congrArg Prod.snd hs).symm.trans hpending)
  · obtain ⟨-, -, -, -, -, -, hdone, -⟩ := h sampleClient revivedEvents (by decide +kernel)
    have hjoins : (run step (start sampleClient) (revivedEvents.take 6)).map
        (fun s => (s.disassociated, s.joinCmds, (s.handle (.surveyDone {} {})).joinCmds)) = some (true, 0, 1) := by
      decide +kernel
    have hjoins' := Option.some.inj hjoins
    have hsame := hdone (congrArg Prod.fst hjoins') rfl
    have hone := (congrArg (fun x => x.2.2) hjoins').symm.trans (hsame.trans (congrArg (fun x => x.2.1) hjoins'))
    exact absurd hone (by decide)

end MlmeJoin

end Rtl8723au
