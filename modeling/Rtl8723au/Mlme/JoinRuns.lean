import Rtl8723au.Mlme.Join

/-! Runs of a join: from `join_cmd_hdl` on one result is reported, and it is the truth. An association response
that is accepted with the association identifier 0 is reported as a failure; a run is clean when none arrives. -/
namespace Rtl8723au
open Mem Wifi
set_option autoImplicit false

namespace Join

variable {s : Join}

/-! ## The phases -/

def WAITING : BitVec 32 := WIFI_FW_AUTH_NULL ||| WIFI_FW_STATION_STATE
def AUTHENTICATING : BitVec 32 := WIFI_FW_AUTH_STATE ||| WIFI_FW_STATION_STATE
def ASSOCIATING : BitVec 32 := WIFI_FW_AUTH_SUCCESS ||| WIFI_FW_ASSOC_STATE ||| WIFI_FW_STATION_STATE
def JOINED : BitVec 32 := WIFI_FW_AUTH_SUCCESS ||| WIFI_FW_ASSOC_SUCCESS ||| WIFI_FW_STATION_STATE

/-- Where a join stands: nothing is reported and the link timer is armed, or one result is reported. -/
inductive Phase (s : Join) : Prop
  | linking (state : s.state = WAITING ∨ s.state = AUTHENTICATING ∨ s.state = ASSOCIATING)
    (armed : s.linkTimer.isSome = true) (reports : s.reports = [])
  | joined (state : s.state = JOINED) (res : ℤ) (positive : 0 < res) (reports : s.reports = [(res, JOINED)])
  | left (state : s.state = WIFI_FW_NULL_STATE) (res : ℤ) (positive : 0 < res) (reports : s.reports = [(res, JOINED)])
  | failed (state : s.state = WIFI_FW_NULL_STATE) (res : ℤ) (negative : res < 0)
    (reports : s.reports = [(res, WIFI_FW_NULL_STATE)])

theorem has_eq {st : BitVec 32} (h : s.state = st) (bits : BitVec 32) : s.has bits = (st &&& bits != 0) := by
  rw [has, h]

/-! ## The pieces -/

theorem Phase.fail (hstate : s.state = WIFI_FW_NULL_STATE) (hreports : s.reports = []) (res : ℤ) (hres : res < 0) :
    (s.reportJoinRes res).Phase := by
  refine .failed hstate res hres ?_
  show s.reports ++ [(res, s.state)] = _
  rw [hreports, hstate]
  rfl

theorem Phase.startAuth (hstate : s.state = WAITING) (hreports : s.reports = []) (now : ℕ) :
    (s.startClntAuth now).Phase := by
  refine .linking (Or.inr (Or.inl ?_)) rfl hreports
  show (s.state &&& ~~~WIFI_FW_AUTH_NULL) ||| WIFI_FW_AUTH_STATE = AUTHENTICATING
  rw [hstate]
  decide

theorem Phase.startAssoc (hstate : s.state = AUTHENTICATING) (hreports : s.reports = []) (now : ℕ) :
    (s.startClntAssoc now).Phase := by
  refine .linking (Or.inr (Or.inr ?_)) rfl hreports
  show (s.state &&& ~~~(WIFI_FW_AUTH_NULL ||| WIFI_FW_AUTH_STATE)) ||| (WIFI_FW_AUTH_SUCCESS ||| WIFI_FW_ASSOC_STATE) =
    ASSOCIATING
  rw [hstate]
  decide

theorem Phase.again {t : Join} (hstate : s.state = WAITING ∨ s.state = AUTHENTICATING ∨ s.state = ASSOCIATING)
    (hreports : s.reports = []) (hsame : t.state = s.state ∧ t.reports = s.reports)
    (harmed : t.linkTimer.isSome = true) : t.Phase :=
  .linking (hsame.1.symm ▸ hstate) harmed (hsame.2.trans hreports)

theorem Phase.receiveDisconnect (h : s.Phase) (macAddr : List UInt8) (reason : ℕ) :
    (s.receiveDisconnect macAddr reason).Phase := by
  unfold Join.receiveDisconnect
  split
  · exact h
  cases h with
  | linking state armed reports =>
    have hbits : s.state &&& 0x03 = WIFI_FW_STATION_STATE ∧ s.has WIFI_FW_ASSOC_SUCCESS = false ∧
        s.has WIFI_FW_LINKING_STATE = true := by
      rcases state with hs | hs | hs <;> (rw [has_eq hs, has_eq hs, hs]; decide)
    rw [if_pos hbits.1, if_neg (by rw [hbits.2.1]; decide), if_pos hbits.2.2]
    exact .fail (by rfl) (by exact reports) (-2) (by decide)
  | joined state res positive reports =>
    have hbits : s.state &&& 0x03 = WIFI_FW_STATION_STATE ∧ s.has WIFI_FW_ASSOC_SUCCESS = true := by
      rw [has_eq state, state]
      decide
    rw [if_pos hbits.1, if_pos hbits.2]
    exact .left rfl res positive reports
  | left state res positive reports =>
    rw [if_neg (by rw [state]; decide)]
    exact .left state res positive reports
  | failed state res negative reports =>
    rw [if_neg (by rw [state]; decide)]
    exact .failed state res negative reports

/-! ## The handlers -/

theorem Phase.beacon (h : s.Phase) (f : MgmtFrame) (scanning changed : Bool) (now : ℕ) :
    (s.onBeacon f scanning changed now).Phase := by
  have hlost := h.receiveDisconnect s.bssid 65535
  unfold onBeacon
  split
  · exact h
  split
  · cases h with
    | linking state armed reports =>
      rcases state with hs | hs | hs
      · rw [if_pos (by rw [has_eq hs]; decide)]
        exact .startAuth hs reports now
      · rw [if_neg (by rw [has_eq hs]; decide), if_neg (by rw [has_eq hs, hs]; decide)]
        exact .linking (Or.inr (Or.inl hs)) armed reports
      · rw [if_neg (by rw [has_eq hs]; decide), if_neg (by rw [has_eq hs, hs]; decide)]
        exact .linking (Or.inr (Or.inr hs)) armed reports
    | joined state res positive reports =>
      rw [if_neg (by rw [has_eq state]; decide), if_pos (by rw [has_eq state, state]; decide)]
      split
      · exact hlost
      · exact .joined state res positive reports
    | left state res positive reports =>
      rw [if_neg (by rw [has_eq state]; decide), if_neg (by rw [has_eq state, state]; decide)]
      exact .left state res positive reports
    | failed state res negative reports =>
      rw [if_neg (by rw [has_eq state]; decide), if_neg (by rw [has_eq state, state]; decide)]
      exact .failed state res negative reports
  · exact h

theorem Phase.not_auth (h : s.Phase) (hstate : s.state ≠ AUTHENTICATING) : s.has WIFI_FW_AUTH_STATE = false := by
  cases h with
  | linking state armed reports =>
    rcases state with hs | hs | hs
    · rw [has_eq hs]
      decide
    · exact absurd hs hstate
    · rw [has_eq hs]
      decide
  | joined state => rw [has_eq state]; decide
  | left state => rw [has_eq state]; decide
  | failed state => rw [has_eq state]; decide

theorem Phase.reports_nil (h : s.Phase) (hstate : s.state = AUTHENTICATING ∨ s.state = ASSOCIATING ∨ s.state = WAITING) :
    s.reports = [] ∧ s.linkTimer.isSome = true := by
  cases h with
  | linking state armed reports => exact ⟨reports, armed⟩
  | joined state =>
    rw [state] at hstate
    exact absurd hstate (by decide)
  | left state =>
    rw [state] at hstate
    exact absurd hstate (by decide)
  | failed state =>
    rw [state] at hstate
    exact absurd hstate (by decide)

theorem Phase.auth (h : s.Phase) (f : MgmtFrame) (now : ℕ) : (s.onAuthClient f now).Phase := by
  unfold onAuthClient
  split
  · exact h
  by_cases hstate : s.state = AUTHENTICATING
  · obtain ⟨hreports, harmed⟩ := h.reports_nil (Or.inl hstate)
    have hlinking : s.state = WAITING ∨ s.state = AUTHENTICATING ∨ s.state = ASSOCIATING := Or.inr (Or.inl hstate)
    rw [if_neg (by rw [has_eq hstate]; decide)]
    dsimp only
    split
    · split <;> exact .again hlinking hreports ⟨rfl, rfl⟩ rfl
    split
    · split
      · split
        · exact h
        · exact .again hlinking hreports ⟨rfl, rfl⟩ rfl
      · exact .startAssoc hstate hreports now
    split
    · split
      · exact .startAssoc hstate hreports now
      · exact h
    · exact h
  · rw [if_pos (by rw [h.not_auth hstate]; decide)]
    exact h

/-- An association response that is accepted has an identifier that is not 0. -/
def Clean (s : Join) : Event → Prop
  | .assocRsp f => s.myid = f.getDa → s.has (WIFI_FW_AUTH_SUCCESS ||| WIFI_FW_ASSOC_STATE) = true →
    s.has WIFI_FW_ASSOC_SUCCESS = false → assocStatus f = 0 → assocAid f ≠ 0
  | _ => True

theorem Phase.assocRsp (h : s.Phase) (f : MgmtFrame) (clean : s.Clean (.assocRsp f)) : (s.onAssocRsp f).Phase := by
  unfold onAssocRsp
  split
  · exact h
  rename_i hda
  have hda : s.myid = f.getDa := not_not.mp hda
  cases h with
  | linking state armed reports =>
    rcases state with hs | hs | hs
    · rw [if_pos (by rw [has_eq hs]; decide)]
      exact .linking (Or.inl hs) armed reports
    · rw [if_pos (by rw [has_eq hs]; decide)]
      exact .linking (Or.inr (Or.inl hs)) armed reports
    · have hgate : s.has (WIFI_FW_AUTH_SUCCESS ||| WIFI_FW_ASSOC_STATE) = true := by rw [has_eq hs]; decide
      have hnew : s.has WIFI_FW_ASSOC_SUCCESS = false := by rw [has_eq hs]; decide
      rw [if_neg (by rw [hgate]; decide), if_neg (by rw [hnew]; decide)]
      dsimp only
      split
      · exact Phase.fail (by rfl) (by exact reports) (-4) (by decide)
      · rename_i hstatus
        have haid : assocAid f ≠ 0 := clean hda hgate hnew (by omega)
        have hstate : (s.state &&& ~~~WIFI_FW_ASSOC_STATE) ||| WIFI_FW_ASSOC_SUCCESS = JOINED := by rw [hs]; decide
        refine .joined hstate (assocAid f) (by omega) ?_
        show s.reports ++ [((assocAid f : ℤ), (s.state &&& ~~~WIFI_FW_ASSOC_STATE) ||| WIFI_FW_ASSOC_SUCCESS)] = _
        rw [reports, hstate]
        rfl
  | joined state res positive reports =>
    rw [if_neg (by rw [has_eq state]; decide), if_pos (by rw [has_eq state]; decide)]
    exact .joined state res positive reports
  | left state res positive reports =>
    rw [if_pos (by rw [has_eq state]; decide)]
    exact .left state res positive reports
  | failed state res negative reports =>
    rw [if_pos (by rw [has_eq state]; decide)]
    exact .failed state res negative reports

theorem Phase.disconnectFrame (h : s.Phase) (f : MgmtFrame) : (s.onDisconnectFrame f).Phase := by
  unfold onDisconnectFrame
  split
  · exact h
  · exact h.receiveDisconnect _ _

theorem Phase.linkTimerHdl (h : s.Phase) (now : ℕ) : (s.cancelLinkTimer.linkTimerHdl now).Phase := by
  unfold Join.linkTimerHdl
  cases h with
  | linking state armed reports =>
    have hlinking : s.cancelLinkTimer.state = WAITING ∨ s.cancelLinkTimer.state = AUTHENTICATING ∨
        s.cancelLinkTimer.state = ASSOCIATING := state
    rcases state with hs | hs | hs
    all_goals have hs : s.cancelLinkTimer.state = _ := hs
    · rw [if_pos (by rw [has_eq hs]; decide)]
      exact Phase.fail (by rfl) (by exact reports) (-3) (by decide)
    · rw [if_neg (by rw [has_eq hs]; decide), if_pos (by rw [has_eq hs]; decide)]
      dsimp only
      split
      · exact Phase.fail (by rfl) (by exact reports) (-1) (by decide)
      · exact .again hlinking reports ⟨rfl, rfl⟩ rfl
    · rw [if_neg (by rw [has_eq hs]; decide), if_neg (by rw [has_eq hs]; decide), if_pos (by rw [has_eq hs]; decide)]
      dsimp only
      split
      · exact Phase.fail (by rfl) (by exact reports) (-2) (by decide)
      · exact .again hlinking reports ⟨rfl, rfl⟩ rfl
  | joined state res positive reports =>
    have hs : s.cancelLinkTimer.state = JOINED := state
    rw [if_neg (by rw [has_eq hs]; decide), if_neg (by rw [has_eq hs]; decide), if_neg (by rw [has_eq hs]; decide)]
    exact .joined state res positive reports
  | left state res positive reports =>
    have hs : s.cancelLinkTimer.state = WIFI_FW_NULL_STATE := state
    rw [if_neg (by rw [has_eq hs]; decide), if_neg (by rw [has_eq hs]; decide), if_neg (by rw [has_eq hs]; decide)]
    exact .left state res positive reports
  | failed state res negative reports =>
    have hs : s.cancelLinkTimer.state = WIFI_FW_NULL_STATE := state
    rw [if_neg (by rw [has_eq hs]; decide), if_neg (by rw [has_eq hs]; decide), if_neg (by rw [has_eq hs]; decide)]
    exact .failed state res negative reports

/-! ## Runs -/

theorem Phase.step (h : s.Phase) (e : Event) (clean : s.Clean e) : (s.step e).Phase := by
  cases e with
  | beacon f scanning changed now => exact h.beacon f scanning changed now
  | auth f now => exact h.auth f now
  | assocRsp f => exact h.assocRsp f clean
  | deauth f => exact h.disconnectFrame f
  | disassoc f => exact h.disconnectFrame f
  | linkTimer now =>
    unfold Join.step
    dsimp only
    split
    · exact h
    · split
      · exact h.linkTimerHdl now
      · exact h

instance (s : Join) : (e : Event) → Decidable (s.Clean e)
  | .assocRsp f => inferInstanceAs (Decidable (s.myid = f.getDa →
      s.has (WIFI_FW_AUTH_SUCCESS ||| WIFI_FW_ASSOC_STATE) = true → s.has WIFI_FW_ASSOC_SUCCESS = false →
      assocStatus f = 0 → assocAid f ≠ 0))
  | .beacon _ _ _ _ | .auth _ _ | .deauth _ | .disassoc _ | .linkTimer _ => .isTrue trivial

def AlongClean (s : Join) : List Event → Prop
  | [] => True
  | e :: events => s.Clean e ∧ (s.step e).AlongClean events

instance : (s : Join) → (events : List Event) → Decidable (s.AlongClean events)
  | _, [] => .isTrue trivial
  | s, e :: events =>
    have := instDecidableAlongClean (s.step e) events
    inferInstanceAs (Decidable (s.Clean e ∧ (s.step e).AlongClean events))

theorem Phase.run (h : s.Phase) (events : List Event) (clean : s.AlongClean events) : (s.run events).Phase := by
  induction events generalizing s with
  | nil => exact h
  | cons e events ih => exact ih (h.step e clean.1) clean.2

theorem Phase.startJoin {pbuf : WlanBssidEx} (hnetwork : s.network = pbuf)
    (infrastructure : pbuf.capability &&& WlanBssidEx.WLAN_CAPABILITY_ESS ≠ 0) (hreports : s.reports = []) (now : ℕ) :
    (s.startClntJoin now).Phase := by
  unfold startClntJoin
  dsimp only
  split
  · exact .linking (Or.inl rfl) rfl hreports
  · rename_i hcap
    have hcap : s.network.capability &&& WlanBssidEx.WLAN_CAPABILITY_ESS = 0 := not_not.mp hcap
    rw [hnetwork] at hcap
    exact absurd hcap infrastructure

theorem Phase.start (s : Join) (pbuf : WlanBssidEx) (now : ℕ)
    (infrastructure : pbuf.capability &&& WlanBssidEx.WLAN_CAPABILITY_ESS ≠ 0) :
    ({ s with reports := [] }.joinCmdHdl pbuf now).Phase := by
  have hjoin : ∀ t : Join, t.reports = [] →
      ({ t with network := pbuf }.cancelLinkTimer.startClntJoin now).Phase := by
    intro t ht
    apply Phase.startJoin ?_ infrastructure
    · exact ht
    · rfl
  unfold joinCmdHdl
  refine hjoin _ ?_
  split
  · split <;> rfl
  · rfl

/-- What the upper layers rely on: one report, a positive one exactly when the station is associated, a state
without a trace of the join after any other, and an armed timer until then. -/
structure ReportsOnce (s : Join) : Prop where
  once : s.reports.length ≤ 1
  positive : ∀ report ∈ s.reports, 0 < report.1 ↔ report.2 &&& WIFI_FW_ASSOC_SUCCESS ≠ 0
  negative : ∀ report ∈ s.reports, report.1 ≤ 0 →
    report.2 &&& (WIFI_FW_AUTH_STATE ||| WIFI_FW_ASSOC_STATE ||| WIFI_FW_ASSOC_SUCCESS) = 0 ∧ s.state = report.2
  armed : s.reports = [] → s.linkTimer.isSome = true

theorem Phase.reportsOnce (h : s.Phase) : s.ReportsOnce := by
  have hone : ∀ (res : ℤ) (st : BitVec 32), s.reports = [(res, st)] →
      (0 < res ↔ st &&& WIFI_FW_ASSOC_SUCCESS ≠ 0) →
      (res ≤ 0 →
        st &&& (WIFI_FW_AUTH_STATE ||| WIFI_FW_ASSOC_STATE ||| WIFI_FW_ASSOC_SUCCESS) = 0 ∧ s.state = st) →
      s.ReportsOnce := by
    intro res st reports positive negative
    refine ⟨by rw [reports]; rfl, ?_, ?_, fun hnil => ?_⟩
    · intro report hreport
      rw [reports, List.mem_singleton] at hreport
      rw [hreport]
      exact positive
    · intro report hreport
      rw [reports, List.mem_singleton] at hreport
      rw [hreport]
      exact negative
    · rw [reports] at hnil
      exact absurd hnil (List.cons_ne_nil _ _)
  cases h with
  | linking state armed reports =>
    refine ⟨by rw [reports]; decide, ?_, ?_, fun _ => armed⟩ <;> simp [reports]
  | joined state res positive reports =>
    exact hone res JOINED reports (iff_of_true positive (by decide)) fun h => absurd positive (by omega)
  | left state res positive reports =>
    exact hone res JOINED reports (iff_of_true positive (by decide)) fun h => absurd positive (by omega)
  | failed state res negative reports =>
    exact hone res WIFI_FW_NULL_STATE reports (iff_of_false (by omega) (by decide)) fun _ => ⟨by decide, state⟩

/-- A join of an infrastructure network reports once and truthfully in every clean run. -/
theorem join_reports (s : Join) (pbuf : WlanBssidEx) (now : ℕ) (events : List Event)
    (infrastructure : pbuf.capability &&& WlanBssidEx.WLAN_CAPABILITY_ESS ≠ 0)
    (clean : ({ s with reports := [] }.joinCmdHdl pbuf now).AlongClean events) :
    (({ s with reports := [] }.joinCmdHdl pbuf now).run events).ReportsOnce :=
  ((Phase.start s pbuf now infrastructure).run events clean).reportsOnce

/-! An access point `02:00:00:00:00:0a`, the station `02:00:00:00:00:01`, and the frames they exchange. -/

def sampleNetwork : WlanBssidEx :=
  { macAddress := #v[2, 0, 0, 0, 0, 10], ies := fun i => if i = 8 then 100 else if i = 10 then 1 else 0 }

def sampleStation : Join := { myid := [2, 0, 0, 0, 0, 1] }

def sampleMgmt (fc : UInt8) (ap : UInt8) (body : List UInt8) : MgmtFrame :=
  let bytes := [fc, 0, 0, 0, 2, 0, 0, 0, 0, 1, 2, 0, 0, 0, 0, ap, 2, 0, 0, 0, 0, ap, 0, 0] ++ body
  ⟨fun i => bytes.getD i.toNat 0, bytes.length⟩

def sampleBeacon : MgmtFrame := sampleMgmt 0x80 10 [0, 0, 0, 0, 0, 0, 0, 0, 100, 0, 1, 0]
def sampleAuth (ap : UInt8) : MgmtFrame := sampleMgmt 0xb0 ap [0, 0, 2, 0, 0, 0]
def sampleAssocRsp (ap aid : UInt8) : MgmtFrame := sampleMgmt 0x10 ap [1, 0, 0, 0, aid, 0xc0]

def sampleJoin (aid : UInt8) : List Event :=
  [.beacon sampleBeacon false false 100, .auth (sampleAuth 10) 110, .assocRsp (sampleAssocRsp 10 aid)]

set_option maxRecDepth 20000 in
theorem join_reports_five :
    ((sampleStation.joinCmdHdl sampleNetwork 0).run (sampleJoin 5)).ReportsOnce ∧
      ((sampleStation.joinCmdHdl sampleNetwork 0).run (sampleJoin 5)).reports = [(5, JOINED)] :=
  ⟨join_reports sampleStation sampleNetwork 0 (sampleJoin 5) (by decide +kernel) (by decide +kernel),
    by decide +kernel⟩

set_option maxRecDepth 20000 in
/-- With the identifier 0 the upper layers hear of a failure while the station is associated. -/
theorem join_untruthful :
    ¬ ∀ (s : Join) (pbuf : WlanBssidEx) (now : ℕ) (events : List Event),
      pbuf.capability &&& WlanBssidEx.WLAN_CAPABILITY_ESS ≠ 0 →
        (({ s with reports := [] }.joinCmdHdl pbuf now).run events).ReportsOnce := by
  intro h
  have hreports : ((sampleStation.joinCmdHdl sampleNetwork 0).run (sampleJoin 0)).reports = [(0, JOINED)] := by
    decide +kernel
  have hmem : (0, JOINED) ∈ ((sampleStation.joinCmdHdl sampleNetwork 0).run (sampleJoin 0)).reports := by
    rw [hreports]
    exact List.mem_singleton_self _
  have hlie := (h sampleStation sampleNetwork 0 (sampleJoin 0) (by decide +kernel)).negative _ hmem (le_refl 0)
  exact absurd hlie.1 (by decide)

end Join

end Rtl8723au
