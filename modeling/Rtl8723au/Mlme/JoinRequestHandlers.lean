import Rtl8723au.Mlme.JoinRequestSteps

/-! What an attempt to join and each handler leave behind in station mode, under the conditions in which they keep the
bookkeeping. -/
namespace Rtl8723au
open GuardedRuns
set_option autoImplicit false

namespace MlmeJoin

variable {s t u : MlmeJoin}

/-! ## Choosing a network -/

theorem foldl_candidate (env : SelectEnv) (l : List NetId) (o : Option NetId) {c : NetId}
    (h : l.foldl (s.rtwCheckJoinCandidate env) o = some c) : o = some c ∨ c ∈ l ∧ s.isCandidate env c = true := by
  induction l generalizing o with
  | nil => exact .inl h
  | cons n l ih =>
    have hnext : s.rtwCheckJoinCandidate env o n = o ∨
        s.rtwCheckJoinCandidate env o n = some n ∧ s.isCandidate env n = true := by
      unfold rtwCheckJoinCandidate
      cases hn : s.isCandidate env n with
      | false => exact .inl rfl
      | true =>
        rw [if_neg (by decide)]
        cases o with
        | none => exact .inr ⟨rfl, rfl⟩
        | some p =>
          dsimp only
          split
          · exact .inr ⟨rfl, rfl⟩
          · exact .inl rfl
    rcases ih _ h with hfound | ⟨hmem, hcand⟩
    · rcases hnext with hsame | ⟨hnew, hcand⟩
      · exact .inl (hsame.symm.trans hfound)
      · cases hnew.symm.trans hfound
        exact .inr ⟨List.mem_cons_self, hcand⟩
    · exact .inr ⟨List.mem_cons_of_mem n hmem, hcand⟩

theorem NoJoin.refuses {env : SelectEnv} (h : s.NoJoin env) {c : NetId} (hc : s.candidate env = some c) :
    env.cmd.accepted = false := by
  rcases h with hrefused | hnone
  · exact hrefused
  · rcases foldl_candidate env _ none hc with habsurd | ⟨hmem, hcand⟩
    · cases habsurd
    · rw [hnone c hmem] at hcand
      cases hcand

theorem NoJoin.keeps {env : SelectEnv} (h : s.NoJoin env) (hk : Keeps s t) (hroam : t.toRoaming = 0 ↔ s.toRoaming = 0) :
    t.NoJoin env := by
  rcases h with hrefused | hnone
  · exact .inl hrefused
  refine .inr fun n hn => ?_
  have hold := hnone n (hk.queue n hn)
  have hbool : (t.toRoaming == 0) = (s.toRoaming == 0) := by
    rw [Bool.eq_iff_iff, beq_iff_eq, beq_iff_eq]
    exact hroam
  unfold isCandidate at hold ⊢
  dsimp only at hold ⊢
  rw [hk.network n, hk.cur, hk.assocSsid, hk.assocByBssid, hbool]
  cases hby : s.assocByBssid with
  | false =>
    rw [hby] at hold
    exact hold
  | true =>
    rw [hk.assocBssid hby]
    rw [hby] at hold
    exact hold

/-- What choosing a network does. -/
structure Selected (s : MlmeJoin) (env : SelectEnv) (x : MlmeJoin × Bool) : Prop where
  keeps : Keeps s x.1
  toJoin : x.1.toJoin = s.toJoin
  toRoaming : x.1.toRoaming = s.toRoaming
  assocTimer : x.1.assocTimer = s.assocTimer
  survey : x.1.bits.survey = s.bits.survey
  unlinked : x.2 = true → x.1.bits.linked = false
  refused : s.NoJoin env → x.1.joinCmds = s.joinCmds

theorem rtwSelectAndJoinFromScannedQueue_spec (hs : StationMode s) (env : SelectEnv) :
    Selected s env (s.rtwSelectAndJoinFromScannedQueue env) := by
  unfold rtwSelectAndJoinFromScannedQueue
  cases hc : s.candidate env with
  | none => exact ⟨.refl s, rfl, rfl, rfl, rfl, fun h => Bool.noConfusion h, fun _ => rfl⟩
  | some c =>
    dsimp only
    -- a station that is linked leaves first
    generalize hu : (if s.checkFwstate WIFI_ASOC_STATE = true then s.rtwIndicateDisconnect.rtwFreeAssocResources
      else s) = u
    have hleft : Keeps s u ∧ SameRequest s u ∧ u.bits.linked = false ∧ u.bits.survey = s.bits.survey := by
      rw [← hu]
      split
      · obtain ⟨hk, hsame, hbits⟩ := leaves_spec hs
        have hlinked : s.leaves.bits.linked = false := by rw [hbits]
        have hsurvey : s.leaves.bits.survey = s.bits.survey := by rw [hbits]
        exact ⟨hk, hsame, hlinked, hsurvey⟩
      · rename_i hnot
        exact ⟨.refl s, ⟨rfl, rfl, rfl, rfl⟩, Bool.eq_false_iff.mpr hnot, rfl⟩
    obtain ⟨hk, hsame, hlinked, hsurvey⟩ := hleft
    have hset : (u.setFwstate WIFI_UNDER_LINKING).bits = { u.bits with linking := true } := u.scanned.bits_setLinking
    have hkeeps : Keeps s (u.setFwstate WIFI_UNDER_LINKING) := hk.trans (.setLinking u)
    have hjoin := rtwJoinbssCmd_spec (hkeeps.station hs) c env.cmd
    refine ⟨hkeeps.trans hjoin.keeps, hjoin.toJoin.trans hsame.toJoin, hjoin.toRoaming.trans hsame.toRoaming,
      hjoin.assocTimer.trans hsame.assocTimer, ?_, fun _ => ?_, fun hno => ?_⟩
    · rw [hjoin.bits, hset]
      exact hsurvey
    · rw [hjoin.bits, hset]
      exact hlinked
    · exact (hjoin.refused (hno.refuses hc)).trans hsame.joinCmds

/-! ## An attempt to join -/

/-- What an attempt leaves behind. -/
structure Attempted (s : MlmeJoin) (env : SelectEnv) (t : MlmeJoin) : Prop where
  keeps : Keeps s t
  toRoaming : t.toRoaming = s.toRoaming
  armed : t.bits.linking = true → t.assocTimer = true
  apart : t.bits.linking = true → t.bits.linked = false
  pending : t.toJoin = true → t.bits.survey = true
  refused : s.NoJoin env → t.joinCmds = s.joinCmds

theorem surveyFirst_spec (s : MlmeJoin) (env : DoJoinEnv) (hlinking : s.bits.linking = false) (select : SelectEnv) :
    Attempted s select (s.surveyFirst env).1 ∧ (s.surveyFirst env).1.joinCmds = s.joinCmds := by
  unfold surveyFirst
  split
  · obtain ⟨hk, hsame, hlink, -, haccepted⟩ := rtwSitesurveyCmd_spec s env.survey
    generalize s.rtwSitesurveyCmd env.survey = x at hk hsame hlink haccepted
    obtain ⟨t, ret⟩ := x
    have hoff : t.bits.linking = false := hlink.trans hlinking
    cases ret with
    | true =>
      refine ⟨⟨hk, hsame.toRoaming, fun h => ?_, fun h => ?_, fun _ => haccepted rfl, fun _ => hsame.joinCmds⟩,
        hsame.joinCmds⟩
      · exact absurd (hoff.symm.trans h) Bool.false_ne_true
      · exact absurd (hoff.symm.trans h) Bool.false_ne_true
    | false =>
      refine ⟨⟨hk.trans (.rest rfl), hsame.toRoaming, fun h => ?_, fun h => ?_, fun h => Bool.noConfusion h,
        fun _ => hsame.joinCmds⟩, hsame.joinCmds⟩
      · exact absurd (hoff.symm.trans h) Bool.false_ne_true
      · exact absurd (hoff.symm.trans h) Bool.false_ne_true
  · refine ⟨⟨.rest rfl, rfl, fun h => ?_, fun h => ?_, fun h => Bool.noConfusion h, fun _ => rfl⟩, rfl⟩
    · exact absurd (hlinking.symm.trans h) Bool.false_ne_true
    · exact absurd (hlinking.symm.trans h) Bool.false_ne_true

theorem rtwDoJoin_spec (hs : StationMode s) (env : DoJoinEnv) : Attempted s env.select (s.rtwDoJoin env).1 := by
  unfold rtwDoJoin
  dsimp only
  have hk : Keeps s ((s.setFwstate WIFI_UNDER_LINKING).setToJoin true) := (Keeps.setLinking s).trans (.rest rfl)
  have hno : s.NoJoin env.select → ((s.setFwstate WIFI_UNDER_LINKING).setToJoin true).NoJoin env.select := id
  have hroam : ((s.setFwstate WIFI_UNDER_LINKING).setToJoin true).toRoaming = s.toRoaming := rfl
  have hcmds : ((s.setFwstate WIFI_UNDER_LINKING).setToJoin true).joinCmds = s.joinCmds := rfl
  generalize (s.setFwstate WIFI_UNDER_LINKING).setToJoin true = u at hk hno hroam hcmds
  have hmode := hk.station hs
  -- a survey, from a state that keeps what `s` has
  have hsurvey : ∀ v, Keeps s v → v.toRoaming = s.toRoaming → (s.NoJoin env.select → v.joinCmds = s.joinCmds) →
      Attempted s env.select ((v.clrFwstate WIFI_UNDER_LINKING).surveyFirst env).1 := by
    intro v hv hvroam hvcmds
    have hclr : (v.clrFwstate WIFI_UNDER_LINKING).bits.linking = false :=
      (congrArg FwBits.linking v.scanned.bits_clrLinking).trans rfl
    obtain ⟨hatt, hsame⟩ := surveyFirst_spec (v.clrFwstate WIFI_UNDER_LINKING) env hclr env.select
    exact ⟨(hv.trans (.clrLinking v)).trans hatt.keeps, hatt.toRoaming.trans hvroam, hatt.armed, hatt.apart,
      hatt.pending, fun h => hsame.trans (hvcmds h)⟩
  split
  · exact hsurvey u hk hroam fun _ => hcmds
  · obtain ⟨hsel, -, hselRoam, -, -, hunlinked, hrefused⟩ := rtwSelectAndJoinFromScannedQueue_spec hmode env.select
    generalize u.rtwSelectAndJoinFromScannedQueue env.select = x at hsel hselRoam hunlinked hrefused
    obtain ⟨v, ret⟩ := x
    have hv : Keeps s v := hk.trans hsel
    have hvroam : v.toRoaming = s.toRoaming := hselRoam.trans hroam
    have hvcmds : s.NoJoin env.select → v.joinCmds = s.joinCmds := fun h => (hrefused (hno h)).trans hcmds
    cases ret with
    | true =>
      exact ⟨hv.trans (.rest rfl), hvroam, fun _ => rfl, fun _ => hunlinked rfl, fun h => Bool.noConfusion h, hvcmds⟩
    | false =>
      dsimp only
      rw [(hv.station hs).notAdhoc, if_neg Bool.false_ne_true]
      exact hsurvey v hv hvroam hvcmds

/-! ## The invariant -/

/-- The bookkeeping, with what keeps it. -/
structure Inv (s : MlmeJoin) : Prop where
  armed : s.bits.linking = true → s.assocTimer = true
  apart : s.bits.linking = true → s.bits.linked = false
  pending : s.toJoin = true → s.bits.survey = true
  entry : Entry s
  wf : StaWf s.stapriv

theorem Attempted.inv {env : SelectEnv} (h : Attempted s env t) (hentry : Entry s) (hwf : StaWf s.stapriv) : Inv t :=
  ⟨h.armed, h.apart, h.pending, h.keeps.entry hentry, h.keeps.wf hwf⟩

theorem inv_of_left (hlinking : t.bits.linking = false) (hlinked : t.bits.linked = false)
    (hpending : t.toJoin = true → t.bits.survey = true) (hwf : StaWf t.stapriv) : Inv t where
  armed h := absurd (hlinking.symm.trans h) Bool.false_ne_true
  apart _ := hlinked
  pending := hpending
  entry h := absurd (hlinked.symm.trans h) Bool.false_ne_true
  wf := hwf

theorem disconnect_bits (s : MlmeJoin) :
    s.rtwIndicateDisconnect.bits = { s.bits with linking := false, linked := false } := s.scanned.bits_disconnect

theorem roamingLoop_spec (env : ℕ → DoJoinEnv) (n : ℕ) (s : MlmeJoin) (hs : StationMode s)
    (hpending : s.toJoin = true → s.bits.survey = true) (hentry : Entry s) (hwf : StaWf s.stapriv) :
    Inv (roamingLoop env n s) ∧ Keeps s (roamingLoop env n s) := by
  induction n generalizing s with
  | zero =>
    have hbits := disconnect_bits s
    have hlinking : s.rtwIndicateDisconnect.bits.linking = false := by rw [hbits]
    have hlinked : s.rtwIndicateDisconnect.bits.linked = false := by rw [hbits]
    have hsurvey : s.rtwIndicateDisconnect.bits.survey = s.bits.survey := by rw [hbits]
    exact ⟨inv_of_left hlinking hlinked (fun h => hsurvey.trans (hpending h)) hwf, .disconnect s⟩
  | succ n ih =>
    have hatt := rtwDoJoin_spec hs (env n)
    have hinv := hatt.inv hentry hwf
    unfold roamingLoop
    generalize s.rtwDoJoin (env n) = x at hatt hinv
    obtain ⟨t, ret⟩ := x
    cases ret with
    | true => exact ⟨hinv, hatt.keeps⟩
    | false =>
      have hk : Keeps s (t.setToRoaming n) := hatt.keeps.trans (.rest rfl)
      obtain ⟨hloop, hloopKeeps⟩ := ih (t.setToRoaming n) (hk.station hs) hinv.pending hinv.entry hinv.wf
      exact ⟨hloop, hk.trans hloopKeeps⟩

theorem roamingLoop_refused (env : ℕ → DoJoinEnv) (n : ℕ) (s : MlmeJoin) (hs : StationMode s)
    (hroam : 0 < n → 0 < s.toRoaming) (hno : ∀ k < n, s.NoJoin (env k).select) :
    (roamingLoop env n s).joinCmds = s.joinCmds := by
  induction n generalizing s with
  | zero => rfl
  | succ n ih =>
    have hatt := rtwDoJoin_spec hs (env n)
    have hsame := hatt.refused (hno n (Nat.lt_succ_self n))
    unfold roamingLoop
    generalize s.rtwDoJoin (env n) = x at hatt hsame
    obtain ⟨t, ret⟩ := x
    cases ret with
    | true => exact hsame
    | false =>
      have hk : Keeps s (t.setToRoaming n) := hatt.keeps.trans (.rest rfl)
      refine (ih (t.setToRoaming n) (hk.station hs) id fun k hk' => ?_).trans hsame
      refine (hno k (Nat.lt_succ_of_lt hk')).keeps hk ?_
      have hpos := hroam (Nat.succ_pos n)
      have hn : (t.setToRoaming n).toRoaming = n := rfl
      omega

/-! ## A handler -/

/-- What a handler that keeps the bookkeeping leaves behind. -/
structure Handled (s t : MlmeJoin) : Prop where
  inv : Inv t
  lock : t.lock = s.lock
  disassociated : t.disassociated = s.disassociated

theorem Inv.of_same (h : Inv s) (hbits : t.bits = s.bits) (htimer : t.assocTimer = s.assocTimer)
    (hjoin : t.toJoin = true → s.toJoin = true) (hsta : t.stapriv = s.stapriv) (hcur : t.curMac = s.curMac) : Inv t where
  armed ht := by
    rw [htimer]
    exact h.armed (hbits ▸ ht)
  apart ht := by
    rw [hbits]
    exact h.apart (hbits ▸ ht)
  pending ht := by
    rw [hbits]
    exact h.pending (hjoin ht)
  entry ht := by
    rw [hsta, hcur]
    exact h.entry (hbits ▸ ht)
  wf := by
    rw [hsta]
    exact h.wf

theorem Handled.locked {f : MlmeJoin → MlmeJoin} (h : Handled s.spinLockBh (f s.spinLockBh)) :
    Handled s (s.locked f) where
  inv := h.inv.of_same rfl rfl id rfl rfl
  lock := by
    show (f s.spinLockBh).lock - 1 = s.lock
    rw [h.lock]
    exact Int.add_sub_cancel s.lock 1
  disassociated := h.disassociated

theorem Inv.spinLockBh (h : Inv s) : Inv s.spinLockBh := h.of_same rfl rfl id rfl rfl

theorem Keeps.handled (h : Keeps s t) (hinv : Inv t) : Handled s t := ⟨hinv, h.lock, h.disassociated⟩

/-! ### Requests -/

theorem leaves_inv (hs : StationMode s) (hpending : s.toJoin = true → s.bits.survey = true) (hwf : StaWf s.stapriv) :
    Inv s.leaves := by
  obtain ⟨hk, hsame, hbits⟩ := leaves_spec hs
  have hlinking : s.leaves.bits.linking = false := by rw [hbits]
  have hlinked : s.leaves.bits.linked = false := by rw [hbits]
  have hsurvey : s.leaves.bits.survey = s.bits.survey := by rw [hbits]
  exact inv_of_left hlinking hlinked (fun h => hsurvey.trans (hpending (hsame.toJoin ▸ h))) (hk.wf hwf)

theorem leaveForRequest_spec (hs : StationMode s) (h : Inv s) : Inv s.leaveForRequest ∧ Keeps s s.leaveForRequest := by
  have hend : ∀ t, Keeps s t → (if t.checkFwstate WIFI_ADHOC_MASTER_STATE = true then
      (t.clrFwstate WIFI_ADHOC_MASTER_STATE).setFwstate WIFI_ADHOC_STATE else t) = t := by
    intro t ht
    rw [(ht.station hs).notMaster, if_neg Bool.false_ne_true]
  unfold leaveForRequest
  cases hl : s.checkFwstate WIFI_ASOC_STATE with
  | true =>
    dsimp only
    rw [if_pos rfl, hend s.rtwIndicateDisconnect.rtwFreeAssocResources (leaves_spec hs).1]
    exact ⟨leaves_inv hs h.pending h.wf, (leaves_spec hs).1⟩
  | false =>
    have hk := Keeps.free hs hl
    have hfree := free_same hs
    dsimp only
    rw [if_neg Bool.false_ne_true, hend _ hk]
    refine ⟨⟨fun ht => ?_, fun ht => ?_, fun ht => ?_, hk.entry h.entry, hk.wf h.wf⟩, hk⟩
    · rw [hfree.1.assocTimer]
      exact h.armed (hfree.2 ▸ ht)
    · rw [hfree.2]
      exact h.apart (hfree.2 ▸ ht)
    · rw [hfree.2]
      exact h.pending (hfree.1.toJoin ▸ ht)

theorem handleTkipCountermeasure_handled (h : Inv s) (tkip : TkipCountermeasure)
    (record : MlmeJoin → MlmeJoin) (env : DoJoinEnv) (hinv : Inv (record s)) (hmode : StationMode (record s))
    (hlock : (record s).lock = s.lock) (hdis : (record s).disassociated = s.disassociated) :
    Handled s (s.handleTkipCountermeasure tkip record env) := by
  unfold handleTkipCountermeasure
  split
  · exact ⟨h, rfl, rfl⟩
  dsimp only
  split
  · rename_i hsurvey
    exact ⟨⟨hinv.armed, hinv.apart, fun _ => hsurvey, hinv.entry, hinv.wf⟩, hlock, hdis⟩
  · have hatt := rtwDoJoin_spec hmode env
    exact ⟨hatt.inv hinv.entry hinv.wf, hatt.keeps.lock.trans hlock, hatt.keeps.disassociated.trans hdis⟩

theorem requestGate_spec (h : Inv s) {leave : MlmeJoin → Option MlmeJoin}
    (hleave : ∀ t, leave s = some t → Inv t ∧ Keeps s t) (ht : s.requestGate leave = some t) : Inv t ∧ Keeps s t := by
  unfold requestGate at ht
  split_ifs at ht
  · cases ht
    exact ⟨h, .refl s⟩
  · exact hleave t ht
  · cases ht
    exact ⟨h, .refl s⟩

theorem request_handled (hs : StationMode s) (h : Inv s) {leave : MlmeJoin → Option MlmeJoin}
    (hleave : ∀ u t, StationMode u → Inv u → leave u = some t → Inv t ∧ Keeps u t) (tkip : TkipCountermeasure)
    {record : MlmeJoin → MlmeJoin} (env : DoJoinEnv)
    (hrecord : ∀ u, (record u).scanned = u.scanned ∧ (record u).stapriv = u.stapriv ∧ (record u).toJoin = u.toJoin ∧
      (record u).assocTimer = u.assocTimer ∧ (record u).lock = u.lock ∧ (record u).disassociated = u.disassociated) :
    Handled s (s.locked fun s => match s.requestGate leave with
      | none => s
      | some s => s.handleTkipCountermeasure tkip record env) := by
  refine Handled.locked ?_
  have hlock : StationMode s.spinLockBh := hs
  cases hgate : s.spinLockBh.requestGate leave with
  | none =>
    exact ⟨h.spinLockBh, rfl, rfl⟩
  | some t =>
    obtain ⟨hinv, hk⟩ := requestGate_spec h.spinLockBh (fun t => hleave _ t hlock h.spinLockBh) hgate
    obtain ⟨hscanned, hsta, hjoin, htimer, hlk, hdis⟩ := hrecord t
    have hbits : (record t).bits = t.bits := congrArg Scanned.bits hscanned
    have hcur : (record t).curMac = t.curMac := congrArg (fun sc => sc.curNetwork.macAddress) hscanned
    have hmode : StationMode (record t) := (congrArg (fun b : FwBits => b.mode) hbits).trans (hk.station hlock)
    have hdone := handleTkipCountermeasure_handled hinv tkip record env
      (hinv.of_same hbits htimer (fun hj => hjoin ▸ hj) hsta hcur) hmode hlk hdis
    exact ⟨hdone.inv, hdone.lock.trans hk.lock, hdone.disassociated.trans hk.disassociated⟩

theorem rtwSet80211Bssid_handled (hs : StationMode s) (h : Inv s) (bssid : MacAddr) (tkip : TkipCountermeasure)
    (env : DoJoinEnv) : Handled s (s.rtwSet80211Bssid bssid tkip env) := by
  unfold rtwSet80211Bssid
  split
  · exact ⟨h, rfl, rfl⟩
  refine request_handled hs h (fun u t hu hinv hleave => ?_) tkip env fun u => ⟨rfl, rfl, rfl, rfl, rfl, rfl⟩
  split_ifs at hleave
  · cases hleave
    exact ⟨hinv, .refl _⟩
  · cases hleave
    exact leaveForRequest_spec hu hinv

theorem rtwSet80211Ssid_handled (hs : StationMode s) (h : Inv s) (ssid : Ndis80211Ssid) (hwInitCompleted sameIbss : Bool)
    (tkip : TkipCountermeasure) (env : DoJoinEnv) :
    Handled s (s.rtwSet80211Ssid ssid hwInitCompleted sameIbss tkip env) := by
  unfold rtwSet80211Ssid
  split
  · exact ⟨h, rfl, rfl⟩
  refine request_handled hs h (fun u t hu hinv hleave => ?_) tkip env fun u => ⟨rfl, rfl, rfl, rfl, rfl, rfl⟩
  split_ifs at hleave
  · cases hleave
    exact ⟨hinv, .refl _⟩
  · cases hleave
    exact leaveForRequest_spec hu hinv
  · cases hleave
    exact leaveForRequest_spec hu hinv

theorem rtwSet80211Disassociate_handled (hs : StationMode s) (h : Inv s) : Handled s s.rtwSet80211Disassociate := by
  refine Handled.locked ?_
  split
  · have hlock : StationMode s.spinLockBh := hs
    exact (leaves_spec hlock).1.handled (leaves_inv hlock h.pending h.wf)
  · exact ⟨h.spinLockBh, rfl, rfl⟩

/-! ### Surveys -/

theorem sitesurvey_handled (h : Inv s) (env : SurveyEnv)
    (hsafe : s.toJoin = true → (s.rtwSitesurveyCmd env).1.bits.survey = true) :
    Handled s (s.rtwSitesurveyCmd env).1 := by
  obtain ⟨hk, hsame, hlinking, hlinked, -⟩ := rtwSitesurveyCmd_spec s env
  refine hk.handled ⟨fun ht => ?_, fun ht => ?_, fun ht => hsafe (hsame.toJoin ▸ ht), hk.entry h.entry, hk.wf h.wf⟩
  · rw [hsame.assocTimer]
    exact h.armed (hlinking ▸ ht)
  · rw [hlinked]
    exact h.apart (hlinking ▸ ht)

theorem rtwSet80211BssidListScan_handled (h : Inv s) (hwInitCompleted busyTraffic scanDeny : Bool) (env : SurveyEnv) :
    Handled s (s.rtwSet80211BssidListScan hwInitCompleted busyTraffic scanDeny env) := by
  unfold rtwSet80211BssidListScan
  split_ifs with hinit hbusy
  · exact ⟨h, rfl, rfl⟩
  · exact ⟨h, rfl, rfl⟩
  · exact ⟨h, rfl, rfl⟩
  · refine Handled.locked (sitesurvey_handled h.spinLockBh env fun hjoin => ?_)
    -- with a request pending there is a survey, and the scan is not made
    have hsurvey : s.checkFwstate WIFI_SITE_MONITOR = true := h.pending hjoin
    have hboth : s.checkFwstate (WIFI_SITE_MONITOR ||| WIFI_UNDER_LINKING) = true := by
      show s.scanned.checkFwstate _ = true
      rw [Scanned.checkFwstate_or _ _ _ (by decide), show s.scanned.checkFwstate WIFI_SITE_MONITOR = true from hsurvey,
        Bool.true_or]
    rw [hboth, Bool.true_or] at hbusy
    exact absurd rfl hbusy

theorem findPhaseHandler_handled (h : Inv s) (env : SurveyEnv) (safe : s.Safe (.findPhase env)) :
    Handled s (s.findPhaseHandler env) := by
  refine Handled.locked (sitesurvey_handled h.spinLockBh env fun hjoin => ?_)
  cases halloc : env.cmd.alloc with
  | false =>
    unfold rtwSitesurveyCmd
    rw [halloc, if_pos (by decide)]
    exact h.pending hjoin
  | true =>
    refine (rtwSitesurveyCmd_spec s.spinLockBh env).accepted ?_
    unfold rtwSitesurveyCmd
    rw [halloc, if_neg (by decide), if_pos (safe hjoin halloc)]

theorem updateNetwork_mac (t : Scanned) {pnetwork : WlanBssidEx} (h : t.curNetwork.isSameNetwork pnetwork = true) :
    (t.updateNetwork t.curNetwork pnetwork true).macAddress = t.curNetwork.macAddress := by
  unfold WlanBssidEx.isSameNetwork at h
  simp only [Bool.and_eq_true, beq_iff_eq] at h
  exact h.1.1.1.2.symm

theorem updateScanned_cur (t : Scanned) (target : WlanBssidEx) (now : BitVec 32) :
    (t.rtwUpdateScannedNetwork target now).curNetwork = t.curNetwork ∧
      (t.rtwUpdateScannedNetwork target now).fwState = t.fwState := by
  unfold Scanned.rtwUpdateScannedNetwork
  split
  · exact ⟨rfl, rfl⟩
  split
  · split <;> exact ⟨rfl, rfl⟩
  · unfold Scanned.rtwAllocNetwork
    split
    · rename_i halloc
      split at halloc
      · cases halloc
        exact ⟨rfl, rfl⟩
      · cases halloc
    · rename_i halloc
      split at halloc
      · cases halloc
      · cases halloc
        exact ⟨rfl, rfl⟩

theorem rtwSurveyEventCallback_handled (hs : StationMode s) (h : Inv s) (pnetwork : WlanBssidEx) (now : BitVec 32) :
    Handled s (s.rtwSurveyEventCallback pnetwork now) := by
  refine Handled.locked ?_
  have hmaster : s.spinLockBh.checkFwstate WIFI_ADHOC_MASTER_STATE = false := StationMode.notMaster hs
  dsimp only
  rw [hmaster, Bool.false_and, Bool.false_and, if_neg Bool.false_ne_true]
  split
  · exact ⟨h.spinLockBh, rfl, rfl⟩
  generalize (if pnetwork.ssid[0] = 0 then { pnetwork with ssidLength := 0 } else pnetwork) = b
  -- the current network keeps its address
  have hcur : (updateCurrentNetwork s.scanned b).curNetwork.macAddress = s.curMac ∧
      (updateCurrentNetwork s.scanned b).fwState = s.scanned.fwState := by
    unfold updateCurrentNetwork
    split
    · rename_i hsame
      exact ⟨updateNetwork_mac s.scanned (Bool.and_eq_true_iff.mp hsame).2, rfl⟩
    · exact ⟨rfl, rfl⟩
  obtain ⟨hlast, hstate⟩ := updateScanned_cur (updateCurrentNetwork s.scanned b) b now
  have hbits : ((updateCurrentNetwork s.scanned b).rtwUpdateScannedNetwork b now).bits = s.bits := by
    unfold bits Scanned.bits Scanned.checkFwstate
    rw [hstate, hcur.2]
  have hmac : ((updateCurrentNetwork s.scanned b).rtwUpdateScannedNetwork b now).curNetwork.macAddress = s.curMac := by
    rw [hlast]
    exact hcur.1
  exact ⟨h.of_same hbits rfl id rfl hmac, rfl, rfl⟩

theorem surveyAgain_spec (hs : StationMode s) (hjoin : s.toJoin = false) (env : SurveyEnv) : Keeps s (s.surveyAgain env) ∧
      ((s.surveyAgain env).toJoin = true → (s.surveyAgain env).bits.survey = true) ∧
      (s.surveyAgain env).joinCmds = s.joinCmds := by
  have hgiveUp : ∀ t, Keeps s t → t.joinCmds = s.joinCmds →
      Keeps s (t.rtwSetRoaming 0).rtwFreeAssocResources.rtwIndicateDisconnect ∧
        ((t.rtwSetRoaming 0).rtwFreeAssocResources.rtwIndicateDisconnect.toJoin = true →
          (t.rtwSetRoaming 0).rtwFreeAssocResources.rtwIndicateDisconnect.bits.survey = true) ∧
        (t.rtwSetRoaming 0).rtwFreeAssocResources.rtwIndicateDisconnect.joinCmds = s.joinCmds := by
    intro t ht hcmds
    have hset : Keeps s (t.rtwSetRoaming 0) := ht.trans (.rest rfl)
    rw [free_disconnect (hset.station hs)]
    obtain ⟨hk, hsame, -⟩ := leaves_spec (hset.station hs)
    refine ⟨hset.trans hk, fun h => ?_, hsame.joinCmds.trans hcmds⟩
    rw [hsame.toJoin] at h
    cases h
  unfold surveyAgain
  split
  · exact ⟨.refl s, fun h => absurd (hjoin.symm.trans h) Bool.false_ne_true, rfl⟩
  dsimp only
  have hdown : Keeps s (s.setToRoaming (s.toRoaming - 1)) := .rest rfl
  split
  · exact hgiveUp _ hdown rfl
  · obtain ⟨hk, hsame, -, -, haccepted⟩ := rtwSitesurveyCmd_spec (s.setToRoaming (s.toRoaming - 1)) env
    generalize (s.setToRoaming (s.toRoaming - 1)).rtwSitesurveyCmd env = x at hk hsame haccepted
    obtain ⟨t, ret⟩ := x
    cases ret with
    | true => exact ⟨(hdown.trans hk).trans (.rest rfl), fun _ => haccepted rfl, hsame.joinCmds⟩
    | false => exact hgiveUp t (hdown.trans hk) hsame.joinCmds

theorem surveyOver_spec (s : MlmeJoin) : Keeps s s.surveyOver ∧ SameRequest s s.surveyOver ∧
    s.surveyOver.bits.linking = s.bits.linking ∧ s.surveyOver.bits.linked = s.bits.linked := by
  unfold surveyOver
  split
  · have hbits : ({ s with scanToTimer := false }.clrFwstate WIFI_SITE_MONITOR).bits = { s.bits with survey := false } :=
      s.scanned.bits_clrSurvey
    have hlinking : ({ s with scanToTimer := false }.clrFwstate WIFI_SITE_MONITOR).bits.linking = s.bits.linking := by
      rw [hbits]
    have hlinked : ({ s with scanToTimer := false }.clrFwstate WIFI_SITE_MONITOR).bits.linked = s.bits.linked := by
      rw [hbits]
    have hrest : Keeps s { s with scanToTimer := false } := .rest rfl
    exact ⟨hrest.trans (.clrSurvey _), ⟨rfl, rfl, rfl, rfl⟩, hlinking, hlinked⟩
  · exact ⟨.refl s, ⟨rfl, rfl, rfl, rfl⟩, rfl, rfl⟩

/-- A pending request is taken up, or taken up again by another survey. -/
theorem joinAfterSurvey_spec (hs : StationMode s) (hentry : Entry s) (hwf : StaWf s.stapriv) (select : SelectEnv)
    (survey : SurveyEnv) : Inv (s.joinAfterSurvey select survey) ∧ Keeps s (s.joinAfterSurvey select survey) ∧
      (s.NoJoin select → (s.joinAfterSurvey select survey).joinCmds = s.joinCmds) := by
  unfold joinAfterSurvey
  rw [hs.notAdhoc, if_neg Bool.false_ne_true]
  have hset : Keeps s ((s.setFwstate WIFI_UNDER_LINKING).setToJoin false) := (Keeps.setLinking s).trans (.rest rfl)
  obtain ⟨hk, hjoin, -, -, -, hunlinked, hrefused⟩ := rtwSelectAndJoinFromScannedQueue_spec (hset.station hs) select
  have hrefused' : s.NoJoin select → _ := fun h => (hrefused h).trans rfl
  generalize ((s.setFwstate WIFI_UNDER_LINKING).setToJoin false).rtwSelectAndJoinFromScannedQueue select = x
    at hk hjoin hunlinked hrefused'
  obtain ⟨t, ret⟩ := x
  have ht : Keeps s t := hset.trans hk
  cases ret with
  | true =>
    refine ⟨⟨fun _ => rfl, fun _ => hunlinked rfl, fun h => ?_, ht.entry hentry, ht.wf hwf⟩, ht.trans (.rest rfl),
      hrefused'⟩
    exact absurd (hjoin.symm.trans h) Bool.false_ne_true
  | false =>
    obtain ⟨hagain, hpending, hcmds⟩ := surveyAgain_spec (ht.station hs) hjoin survey
    have hoff : ((t.surveyAgain survey).clrFwstate WIFI_UNDER_LINKING).bits =
        { (t.surveyAgain survey).bits with linking := false } := Scanned.bits_clrLinking _
    have hlinking : ((t.surveyAgain survey).clrFwstate WIFI_UNDER_LINKING).bits.linking = false := by rw [hoff]
    have hsurvey : ((t.surveyAgain survey).clrFwstate WIFI_UNDER_LINKING).bits.survey =
        (t.surveyAgain survey).bits.survey := by rw [hoff]
    have hall : Keeps s ((t.surveyAgain survey).clrFwstate WIFI_UNDER_LINKING) := (ht.trans hagain).trans (.clrLinking _)
    refine ⟨⟨fun h => ?_, fun h => ?_, fun h => hsurvey.trans (hpending h), hall.entry hentry, hall.wf hwf⟩, hall,
      fun h => hcmds.trans (hrefused' h)⟩
    · exact absurd (hlinking.symm.trans h) Bool.false_ne_true
    · exact absurd (hlinking.symm.trans h) Bool.false_ne_true

theorem rtwSurveydoneEventCallback_handled (hs : StationMode s) (h : Inv s) (select : SelectEnv) (survey : SurveyEnv) :
    Handled s (s.rtwSurveydoneEventCallback select survey) ∧
      ((s.toJoin = true → s.NoJoin select) → (s.rtwSurveydoneEventCallback select survey).joinCmds = s.joinCmds) := by
  have hlock : StationMode s.spinLockBh := hs
  obtain ⟨hk, hsame, hlinking, hlinked⟩ := surveyOver_spec s.spinLockBh
  have hover := hk.station hlock
  have hentry : Entry s.spinLockBh.surveyOver := hk.entry h.spinLockBh.entry
  have hwf : StaWf s.spinLockBh.surveyOver.stapriv := hk.wf h.wf
  have hdone : s.rtwSurveydoneEventCallback select survey =
      (if s.spinLockBh.surveyOver.toJoin = true then s.spinLockBh.surveyOver.joinAfterSurvey select survey
        else s.spinLockBh.surveyOver).spinUnlockBh := rfl
  cases hjoin : s.spinLockBh.surveyOver.toJoin with
  | true =>
    obtain ⟨hinv, hkeeps, hquiet⟩ := joinAfterSurvey_spec hover hentry hwf select survey
    rw [hjoin, if_pos rfl] at hdone
    refine ⟨Handled.locked (f := fun s => if s.surveyOver.toJoin = true then s.surveyOver.joinAfterSurvey select survey
      else s.surveyOver) ?_, fun hno => ?_⟩
    · rw [hjoin, if_pos rfl]
      exact (hk.trans hkeeps).handled hinv
    · rw [hdone]
      have hpending : s.toJoin = true := hsame.toJoin.symm.trans hjoin
      have hlocked : s.spinLockBh.NoJoin select := hno hpending
      have hroam : s.spinLockBh.surveyOver.toRoaming = 0 ↔ s.spinLockBh.toRoaming = 0 := by rw [hsame.toRoaming]
      have hover' : s.spinLockBh.surveyOver.NoJoin select := hlocked.keeps hk hroam
      exact (hquiet hover').trans hsame.joinCmds
  | false =>
    rw [hjoin, if_neg Bool.false_ne_true] at hdone
    refine ⟨Handled.locked (f := fun s => if s.surveyOver.toJoin = true then s.surveyOver.joinAfterSurvey select survey
      else s.surveyOver) ?_, fun _ => ?_⟩
    · rw [hjoin, if_neg Bool.false_ne_true]
      refine hk.handled ⟨fun ht => ?_, fun ht => ?_, fun ht => ?_, hentry, hwf⟩
      · rw [hsame.assocTimer]
        exact h.armed (hlinking ▸ ht)
      · rw [hlinked]
        exact h.apart (hlinking ▸ ht)
      · exact absurd (hjoin.symm.trans ht) Bool.false_ne_true
    · rw [hdone]
      exact hsame.joinCmds

theorem rtwScanTimeoutHandler_handled (h : Inv s) (safe : s.Safe .scanTimeout) : Handled s s.rtwScanTimeoutHandler := by
  have hbits : s.rtwScanTimeoutHandler.bits = { s.bits with survey := false } := s.scanned.bits_clrSurvey
  have hlinking : s.rtwScanTimeoutHandler.bits.linking = s.bits.linking := by rw [hbits]
  have hlinked : s.rtwScanTimeoutHandler.bits.linked = s.bits.linked := by rw [hbits]
  have hjoin : s.toJoin = false := safe
  refine ⟨⟨fun ht => h.armed (hlinking ▸ ht), fun ht => ?_, fun ht => ?_, fun ht => h.entry (hlinked ▸ ht), h.wf⟩, ?_,
    rfl⟩
  · rw [hlinked]
    exact h.apart (hlinking ▸ ht)
  · exact absurd (hjoin.symm.trans ht) Bool.false_ne_true
  · exact Int.add_sub_cancel s.lock 1

/-! ### Roaming -/

theorem rtwRoamingCore_spec (hs : StationMode s) (h : Inv s) (env : ℕ → DoJoinEnv) :
    Handled s (s.rtwRoamingCore env) ∧ StationMode (s.rtwRoamingCore env) ∧
      ((∀ n < s.toRoaming, s.roamFrom.NoJoin (env n).select) → (s.rtwRoamingCore env).joinCmds = s.joinCmds) := by
  unfold rtwRoamingCore
  split
  · rename_i hpos
    have hmode : StationMode s.roamFrom := hs
    obtain ⟨hinv, hk⟩ := roamingLoop_spec env s.toRoaming s.roamFrom hmode h.pending h.entry h.wf
    exact ⟨⟨hinv, hk.lock, hk.disassociated⟩, hk.station hmode, fun hno =>
      roamingLoop_refused env s.toRoaming s.roamFrom hmode (fun _ => hpos) hno⟩
  · exact ⟨⟨h, rfl, rfl⟩, hs, fun _ => rfl⟩

theorem rtwRoaming_handled (hs : StationMode s) (h : Inv s) (env : ℕ → DoJoinEnv) :
    Handled s (s.rtwRoaming env) ∧ ((∀ n < s.toRoaming, s.roamFrom.NoJoin (env n).select) →
      (s.rtwRoaming env).joinCmds = s.joinCmds) := by
  have hlock : StationMode s.spinLockBh := hs
  obtain ⟨hdone, -, hquiet⟩ := rtwRoamingCore_spec hlock h.spinLockBh env
  exact ⟨.locked hdone, hquiet⟩

theorem rtwJoinTimeoutHandler_handled (hs : StationMode s) (h : Inv s) (env : ℕ → DoJoinEnv) :
    Handled s (s.rtwJoinTimeoutHandler env) ∧ ((∀ n < s.toRoaming - 1, s.NoJoin (env n).select) →
      (s.rtwJoinTimeoutHandler env).joinCmds = s.joinCmds) := by
  let u := (s.setAssocTimer false).spinLockBh
  have hu : StationMode u := hs
  have hlock : ∀ t : MlmeJoin, t.lock = u.lock → t.spinUnlockBh.lock = s.lock := by
    intro t ht
    show t.lock - 1 = s.lock
    rw [ht]
    exact Int.add_sub_cancel s.lock 1
  have hdone : s.rtwJoinTimeoutHandler env = (if 0 < s.toRoaming then
      roamingLoop env (s.toRoaming - 1) (u.setToRoaming (s.toRoaming - 1))
    else u.rtwIndicateDisconnect.onScanned (·.freeScanqueue)).spinUnlockBh := rfl
  rw [hdone]
  split
  · let v := u.setToRoaming (s.toRoaming - 1)
    have hv : StationMode v := hs
    obtain ⟨hinv, hk⟩ := roamingLoop_spec env (s.toRoaming - 1) v hv h.pending h.entry h.wf
    refine ⟨⟨hinv.of_same rfl rfl id rfl rfl, hlock _ hk.lock, hk.disassociated⟩, fun hno => ?_⟩
    refine roamingLoop_refused env (s.toRoaming - 1) v hv id fun k hk' => ?_
    have hlocked : u.NoJoin (env k).select := hno k hk'
    have hdown : Keeps u v := .rest rfl
    refine hlocked.keeps hdown ?_
    show s.toRoaming - 1 = 0 ↔ s.toRoaming = 0
    omega
  · have hbits := disconnect_bits u
    have hprune := Scanned.Pruned.freeScanqueue u.rtwIndicateDisconnect.scanned
    have hend : (u.rtwIndicateDisconnect.onScanned (·.freeScanqueue)).bits = { u.bits with linking := false, linked := false } :=
      hprune.bits.trans hbits
    have hlinking : (u.rtwIndicateDisconnect.onScanned (·.freeScanqueue)).bits.linking = false := by rw [hend]
    have hlinked : (u.rtwIndicateDisconnect.onScanned (·.freeScanqueue)).bits.linked = false := by rw [hend]
    have hsurvey : (u.rtwIndicateDisconnect.onScanned (·.freeScanqueue)).bits.survey = s.bits.survey := by
      rw [hend]
      rfl
    have hinv : Inv (u.rtwIndicateDisconnect.onScanned (·.freeScanqueue)) :=
      inv_of_left hlinking hlinked (fun ht => hsurvey.trans (h.pending ht)) h.wf
    exact ⟨⟨hinv.of_same rfl rfl id rfl rfl, hlock _ rfl, rfl⟩, fun _ => rfl⟩

theorem staDelRoaming_same (s : MlmeJoin) (reason : ℕ) : Keeps s (s.staDelRoaming reason) ∧
    (s.staDelRoaming reason).scanned = s.scanned ∧ ((s.staDelRoaming reason).toJoin = true → s.toJoin = true) ∧
    (s.staDelRoaming reason).joinCmds = s.joinCmds := by
  have hset : ∀ (t : MlmeJoin) (n : ℕ), (t.rtwSetRoaming n).toJoin = true → t.toJoin = true := by
    intro t n h
    have hjoin : (if n = 0 then false else t.toJoin) = true := h
    split_ifs at hjoin
    exact hjoin
  unfold staDelRoaming
  dsimp only
  split_ifs
  · exact ⟨.rest rfl, rfl, fun h => hset (s.setToRoaming (s.toRoaming - 1)) 0 h, rfl⟩
  · exact ⟨.rest rfl, rfl, fun h => hset _ _ (hset (s.rtwSetRoaming s.maxRoamingTimes) 0 h), rfl⟩
  · exact ⟨.rest rfl, rfl, id, rfl⟩
  · exact ⟨.rest rfl, rfl, fun h => hset s s.maxRoamingTimes h, rfl⟩

theorem Keeps.roamFrom (h : Keeps s t) : Keeps s.roamFrom t.roamFrom where
  mode := h.mode
  lock := h.lock
  disassociated := h.disassociated
  wf := h.wf
  entry := h.entry
  queue := h.queue
  network := h.network
  cur := h.cur
  assocSsid := congrArg WlanBssidEx.ssidOf h.cur
  assocByBssid := rfl
  assocBssid hby := Bool.noConfusion hby

theorem leavesCurrent_spec (hs : StationMode s) (hpending : s.toJoin = true → s.bits.survey = true)
    (hwf : StaWf s.stapriv) : Inv (s.leaves.onScanned (·.removeCurrent)) ∧
      Keeps s (s.leaves.onScanned (·.removeCurrent)) ∧ SameRequest s (s.leaves.onScanned (·.removeCurrent)) := by
  obtain ⟨hk, hsame, -⟩ := leaves_spec hs
  have hinv := leaves_inv hs hpending hwf
  have hprune := Scanned.Pruned.removeCurrent s.leaves.scanned
  have hmac : (s.leaves.onScanned (·.removeCurrent)).curMac = s.leaves.curMac :=
    congrArg WlanBssidEx.macAddress hprune.cur
  exact ⟨hinv.of_same hprune.bits rfl id rfl hmac, hk.trans (.pruned hprune),
    ⟨hsame.toJoin, hsame.toRoaming, hsame.assocTimer, hsame.joinCmds⟩⟩

theorem staDelRoaming_spinLockBh (s : MlmeJoin) (reason : ℕ) :
    s.spinLockBh.staDelRoaming reason = (s.staDelRoaming reason).spinLockBh := by
  have hlast : ∀ t : MlmeJoin, (if reason ≠ WLAN_REASON_EXPIRATION_CHK then t.spinLockBh.rtwSetRoaming 0
      else t.spinLockBh) = (if reason ≠ WLAN_REASON_EXPIRATION_CHK then t.rtwSetRoaming 0 else t).spinLockBh := by
    intro t
    split <;> rfl
  unfold staDelRoaming
  rw [← hlast]
  by_cases hpos : 0 < s.toRoaming
  · have hlock : 0 < s.spinLockBh.toRoaming := hpos
    rw [if_pos hpos, if_pos hlock]
    rfl
  · have hlock : ¬0 < s.spinLockBh.toRoaming := hpos
    rw [if_neg hpos, if_neg hlock]
    rfl

theorem rtwStadelEventCallback_handled (hs : StationMode s) (h : Inv s) (macaddr : MacAddr) (reason : ℕ)
    (env : ℕ → DoJoinEnv) : Handled s (s.rtwStadelEventCallback macaddr reason env) ∧
      ((∀ n < (s.staDelRoaming reason).toRoaming, (s.staDelRoaming reason).roamFrom.NoJoin (env n).select) →
        (s.rtwStadelEventCallback macaddr reason env).joinCmds = s.joinCmds) := by
  let u := s.spinLockBh.staDelRoaming reason
  have hlock : StationMode s.spinLockBh := hs
  obtain ⟨hk, hscanned, hjoin, hcmds⟩ := staDelRoaming_same s.spinLockBh reason
  have hu : StationMode u := hk.station hlock
  have hbits : u.bits = s.bits := congrArg Scanned.bits hscanned
  have hpending : u.toJoin = true → u.bits.survey = true := fun hj => by
    rw [hbits]
    exact h.pending (hjoin hj)
  obtain ⟨hinv, hleft, hsame⟩ := leavesCurrent_spec hu hpending (hk.wf h.wf)
  obtain ⟨hroamed, hend, hquiet⟩ := rtwRoamingCore_spec (hleft.station hu) hinv env
  -- of the two parts only the one for a station does anything
  have hdone : s.rtwStadelEventCallback macaddr reason env =
      ((u.leaves.onScanned (·.removeCurrent)).rtwRoamingCore env).spinUnlockBh := by
    unfold rtwStadelEventCallback MlmeJoin.locked
    dsimp only
    rw [hs.notAp, hlock.station, if_neg Bool.false_ne_true, if_pos rfl, free_disconnect hu, hend.noAdhoc,
      if_neg Bool.false_ne_true]
  rw [hdone]
  refine ⟨⟨hroamed.inv.of_same rfl rfl id rfl rfl, ?_, ?_⟩, fun hno => ?_⟩
  · show ((u.leaves.onScanned (·.removeCurrent)).rtwRoamingCore env).lock - 1 = s.lock
    rw [hroamed.lock, hleft.lock, hk.lock]
    exact Int.add_sub_cancel s.lock 1
  · exact hroamed.disassociated.trans (hleft.disassociated.trans hk.disassociated)
  · have hlocked : u = (s.staDelRoaming reason).spinLockBh := staDelRoaming_spinLockBh s reason
    refine (hquiet fun n hn => ?_).trans (hsame.joinCmds.trans hcmds)
    rw [hsame.toRoaming, hlocked] at hn
    have hu' : u.roamFrom.NoJoin (env n).select := by
      rw [hlocked]
      exact hno n hn
    have hzero : (u.leaves.onScanned (·.removeCurrent)).roamFrom.toRoaming = 0 ↔ u.roamFrom.toRoaming = 0 := by
      show (u.leaves.onScanned (·.removeCurrent)).toRoaming = 0 ↔ u.toRoaming = 0
      rw [hsame.toRoaming]
    exact hu'.keeps hleft.roamFrom hzero

end MlmeJoin
end Rtl8723au
