import Rtl8723au.Mlme.JoinRuns

/-! Frames of other stations while a join goes on. The two handlers of a disconnect compare the BSSID; the two
handlers that move a join forward do not look at the sender. -/
namespace Rtl8723au
open Mem Wifi
set_option autoImplicit false

namespace Join

variable {s : Join}

/-- The management frame that an event brings, if it is one of those that drive a join. -/
def Event.frame : Event → Option MgmtFrame
  | .auth f _ => some f
  | .assocRsp f => some f
  | .deauth f => some f
  | .disassoc f => some f
  | .beacon _ _ _ _ => none
  | .linkTimer _ => none

/-- Neither the sender nor the BSSID of the frame is the access point of the join. -/
structure Foreign (s : Join) (f : MgmtFrame) : Prop where
  sender : f.addr2 ≠ s.bssid
  network : f.addr3 ≠ s.bssid

instance (s : Join) (f : MgmtFrame) : Decidable (s.Foreign f) :=
  decidable_of_iff (f.addr2 ≠ s.bssid ∧ f.addr3 ≠ s.bssid) ⟨fun h => ⟨h.1, h.2⟩, fun h => ⟨h.sender, h.network⟩⟩

def BringsForeign (s : Join) (e : Event) : Prop := ∃ f ∈ e.frame, s.Foreign f

instance (s : Join) (e : Event) : Decidable (s.BringsForeign e) :=
  inferInstanceAs (Decidable (∃ f ∈ e.frame, s.Foreign f))

/-- What a frame must leave as it was. -/
structure Unmoved (s t : Join) : Prop where
  state : t.state = s.state
  authAlgo : t.authAlgo = s.authAlgo
  authSeq : t.authSeq = s.authSeq
  chgTxt : t.chgTxt = s.chgTxt
  aid : t.aid = s.aid
  capability : le16 t.info CAPABILITY = le16 s.info CAPABILITY
  linkTimer : t.linkTimer = s.linkTimer
  sent : t.sent = s.sent
  reports : t.reports = s.reports

theorem Unmoved.refl (s : Join) : s.Unmoved s := ⟨rfl, rfl, rfl, rfl, rfl, rfl, rfl, rfl, rfl⟩

theorem Unmoved.of_eq {t : Join} (h : t = s) : s.Unmoved t := by
  rw [h]
  exact .refl s

/-! ## Authentication responses -/

/-- The frame is one that `OnAuthClient` acts on: a failure, a challenge, or the last step of the exchange. -/
def Answers (s : Join) (f : MgmtFrame) (now : ℕ) : Prop :=
  (authStatus f ≠ 0 ∧ (authStatus f = 13 ∨ s.linkTimer ≠ some (now + 1))) ∨
  (authStatus f = 0 ∧ authSeqOf f = 2 ∧ (s.authAlgo ≠ dot11AuthAlgrthm_Shared ∨ challenge f ≠ none)) ∨
  (authStatus f = 0 ∧ authSeqOf f = 4 ∧ s.authAlgo = dot11AuthAlgrthm_Shared)

theorem issueAuth_sent (s : Join) : ∃ frame, s.issueAuth.sent = s.sent ++ [frame] := ⟨_, rfl⟩

theorem startClntAssoc_sent (s : Join) (now : ℕ) : (s.startClntAssoc now).sent = s.sent ++ [.assocreq] := rfl

theorem not_unmoved_of_sent {t : Join} {frame : StaFrame} (h : t.sent = s.sent ++ [frame]) : ¬ s.Unmoved t := by
  intro unmoved
  have hlen := congrArg List.length (h.symm.trans unmoved.sent)
  rw [List.length_append, List.length_singleton] at hlen
  omega

theorem not_unmoved_of_reports {t : Join} {report : ℤ × BitVec 32} (h : t.reports = s.reports ++ [report]) :
    ¬ s.Unmoved t := by
  intro unmoved
  have hlen := congrArg List.length (h.symm.trans unmoved.reports)
  rw [List.length_append, List.length_singleton] at hlen
  omega

theorem auth_unmoved_of_not (f : MgmtFrame) (now : ℕ)
    (h : ¬ (s.myid = f.getDa ∧ s.has WIFI_FW_AUTH_STATE = true ∧ s.Answers f now)) : s.onAuthClient f now = s := by
  unfold onAuthClient
  split
  · rfl
  rename_i hda
  split
  · rfl
  rename_i hauth
  have hquiet : ¬ s.Answers f now := fun hanswers =>
    h ⟨not_not.mp hda, by rw [Bool.not_eq_true', Bool.not_eq_false] at hauth; exact hauth, hanswers⟩
  dsimp only
  split
  · rename_i hstatus
    have hno13 : authStatus f ≠ 13 := fun h13 => hquiet (Or.inl ⟨hstatus, Or.inl h13⟩)
    have htimer : s.linkTimer = some (now + 1) := by
      by_contra hother
      exact hquiet (Or.inl ⟨hstatus, Or.inr hother⟩)
    rw [if_neg hno13]
    show { s with linkTimer := some (now + 1) } = s
    rw [← htimer]
  rename_i hstatus
  have hstatus : authStatus f = 0 := not_not.mp hstatus
  split
  · rename_i hseq
    split
    · split
      · rfl
      · rename_i hfound
        exact absurd (Or.inr (Or.inl ⟨hstatus, hseq, Or.inr (by rw [hfound]; exact Option.some_ne_none _)⟩)) hquiet
    · rename_i halgo
      exact absurd (Or.inr (Or.inl ⟨hstatus, hseq, Or.inl halgo⟩)) hquiet
  split
  · rename_i hseq
    split
    · rename_i halgo
      exact absurd (Or.inr (Or.inr ⟨hstatus, hseq, halgo⟩)) hquiet
    · rfl
  · rfl

theorem auth_moved (f : MgmtFrame) (now : ℕ) (hda : s.myid = f.getDa) (hauth : s.has WIFI_FW_AUTH_STATE = true)
    (hanswers : s.Answers f now) : ¬ s.Unmoved (s.onAuthClient f now) := by
  unfold onAuthClient
  rw [if_neg (not_not.mpr hda), if_neg (by rw [hauth]; decide)]
  dsimp only
  rcases hanswers with ⟨hstatus, hfail⟩ | ⟨hstatus, hseq, hopen⟩ | ⟨hstatus, hseq, halgo⟩
  · rw [if_pos hstatus]
    by_cases h13 : authStatus f = 13
    · rw [if_pos h13]
      intro unmoved
      have halgo : (if s.authAlgo = dot11AuthAlgrthm_Shared then dot11AuthAlgrthm_Open else dot11AuthAlgrthm_Shared) =
        s.authAlgo := unmoved.authAlgo
      split at halgo
      · rename_i hshared
        rw [hshared] at halgo
        exact absurd halgo (by decide)
      · rename_i hshared
        exact hshared halgo.symm
    · rw [if_neg h13]
      intro unmoved
      rcases hfail with h | h
      · exact h13 h
      · exact h unmoved.linkTimer.symm
  · rw [if_neg (not_not.mpr hstatus), if_pos hseq]
    split
    · rename_i hshared
      rcases hopen with h | h
      · exact absurd hshared h
      split
      · rename_i hnone
        exact absurd hnone h
      · exact not_unmoved_of_sent (issueAuth_sent _).choose_spec
    · exact not_unmoved_of_sent (startClntAssoc_sent s now)
  · rw [if_neg (not_not.mpr hstatus), if_neg (by omega), if_pos hseq, if_pos halgo]
    exact not_unmoved_of_sent (startClntAssoc_sent s now)

/-! ## Association responses -/

theorem assocRsp_unmoved_of_not (f : MgmtFrame)
    (h : ¬ (s.myid = f.getDa ∧ s.has (WIFI_FW_AUTH_SUCCESS ||| WIFI_FW_ASSOC_STATE) = true ∧
      s.has WIFI_FW_ASSOC_SUCCESS = false)) : s.onAssocRsp f = s := by
  unfold onAssocRsp
  split
  · rfl
  rename_i hda
  split
  · rfl
  rename_i hgate
  split
  · rfl
  rename_i hnew
  rw [Bool.not_eq_true', Bool.not_eq_false] at hgate
  rw [Bool.not_eq_true] at hnew
  exact absurd ⟨not_not.mp hda, hgate, hnew⟩ h

theorem assocRsp_moved (f : MgmtFrame) (hda : s.myid = f.getDa)
    (hgate : s.has (WIFI_FW_AUTH_SUCCESS ||| WIFI_FW_ASSOC_STATE) = true) (hnew : s.has WIFI_FW_ASSOC_SUCCESS = false) :
    ¬ s.Unmoved (s.onAssocRsp f) := by
  unfold onAssocRsp
  rw [if_neg (not_not.mpr hda), if_neg (by rw [hgate]; decide), if_neg (by rw [hnew]; decide)]
  dsimp only
  split
  · exact not_unmoved_of_reports (by rfl)
  · exact not_unmoved_of_reports (by rfl)

/-! ## Every frame -/

def Drives (s : Join) : Event → Prop
  | .auth f now => s.myid = f.getDa ∧ s.has WIFI_FW_AUTH_STATE = true ∧ s.Answers f now
  | .assocRsp f => s.myid = f.getDa ∧ s.has (WIFI_FW_AUTH_SUCCESS ||| WIFI_FW_ASSOC_STATE) = true ∧
      s.has WIFI_FW_ASSOC_SUCCESS = false
  | _ => False

theorem Foreign.disconnectFrame {f : MgmtFrame} (foreign : s.Foreign f) : s.onDisconnectFrame f = s := by
  unfold onDisconnectFrame
  rw [if_pos foreign.network]

theorem BringsForeign.step_of_not {e : Event} (foreign : s.BringsForeign e) (h : ¬ s.Drives e) : s.step e = s := by
  obtain ⟨f, hframe, foreign⟩ := foreign
  cases e with
  | auth g now => exact auth_unmoved_of_not g now h
  | assocRsp g => exact assocRsp_unmoved_of_not g h
  | deauth g => exact Foreign.disconnectFrame (Option.some.inj hframe ▸ foreign)
  | disassoc g => exact Foreign.disconnectFrame (Option.some.inj hframe ▸ foreign)
  | beacon => exact absurd hframe.symm (Option.some_ne_none f)
  | linkTimer => exact absurd hframe.symm (Option.some_ne_none f)

theorem not_unmoved_of_drives {e : Event} (h : s.Drives e) : ¬ s.Unmoved (s.step e) := by
  cases e with
  | auth f now => exact auth_moved f now h.1 h.2.1 h.2.2
  | assocRsp f => exact assocRsp_moved f h.1 h.2.1 h.2.2
  | deauth => exact h.elim
  | disassoc => exact h.elim
  | beacon => exact h.elim
  | linkTimer => exact h.elim

/-- A foreign frame leaves the join as it is unless it answers what the station waits for. -/
theorem foreign_unmoved (s : Join) (e : Event) (foreign : s.BringsForeign e) :
    s.Unmoved (s.step e) ↔ ¬ s.Drives e := by
  constructor
  · intro unmoved drives
    exact not_unmoved_of_drives drives unmoved
  · intro h
    exact .of_eq (foreign.step_of_not h)

/-- The sample station has heard the beacon; the third frame of an exchange comes from another access point. -/
def sampleAuthenticating : Join := (sampleStation.joinCmdHdl sampleNetwork 0).onBeacon sampleBeacon false false 100

def sampleThird : MgmtFrame := sampleMgmt 0xb0 11 [0, 0, 3, 0, 0, 0]

set_option maxRecDepth 20000 in
theorem foreign_unmoved_third : sampleAuthenticating.Unmoved (sampleAuthenticating.step (.auth sampleThird 110)) := by
  refine (foreign_unmoved sampleAuthenticating (.auth sampleThird 110) ?_).mpr ?_
  · decide +kernel
  · rintro ⟨-, -, hanswers⟩
    have hstatus : authStatus sampleThird = 0 := by decide +kernel
    have hseq : authSeqOf sampleThird = 3 := by decide +kernel
    rcases hanswers with h | h | h
    · exact h.1 hstatus
    · exact absurd (hseq.symm.trans h.2.1) (by decide)
    · exact absurd (hseq.symm.trans h.2.1) (by decide)

set_option maxRecDepth 20000 in
/-- An authentication response of another access point makes the station ask for an association. -/
theorem foreign_moves :
    ¬ ∀ (s : Join) (pbuf : WlanBssidEx) (now : ℕ) (events : List Event) (e : Event),
      pbuf.capability &&& WlanBssidEx.WLAN_CAPABILITY_ESS ≠ 0 →
      ((s.joinCmdHdl pbuf now).run events).BringsForeign e →
      (∀ f ∈ e.frame, f.addr1 = s.myid) →
        ((s.joinCmdHdl pbuf now).run events).Unmoved (((s.joinCmdHdl pbuf now).run events).step e) := by
  intro h
  have hsent := (h sampleStation sampleNetwork 0 [.beacon sampleBeacon false false 100] (.auth (sampleAuth 11) 110)
    (by decide +kernel) (by decide +kernel) (by decide +kernel)).sent
  exact absurd hsent (by decide +kernel)

end Join

end Rtl8723au
