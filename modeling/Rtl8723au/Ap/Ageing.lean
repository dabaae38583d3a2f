import Rtl8723au.Ap.Joining

/-! Power save, and the timer `expire_timeout_chk` as a run of the station table: its three loops, each
with what it knows of the stations it has not come to. -/
namespace Rtl8723au
open Relation
set_option autoImplicit false

/-! ## Power save -/

theorem authed_toggleState {info : StaInfo} {bit : BitVec 32}
    (hbit : bit &&& (WIFI_FW_AUTH_SUCCESS ||| WIFI_FW_ASSOC_SUCCESS) = 0)
    (h : (info.toggleState bit).authed = true) : info.authed = true := by
  unfold StaInfo.authed StaInfo.inState at *
  rw [bne_iff_ne] at *
  intro hzero
  apply h
  show (info.state ^^^ bit) &&& _ = 0
  have hdistrib : ∀ mask : BitVec 32, (info.state ^^^ bit) &&& mask =
      (info.state &&& mask) ^^^ (bit &&& mask) := by
    intro mask
    ext i hi
    simp only [BitVec.getElem_and, BitVec.getElem_xor]
    exact Bool.and_xor_distrib_right _ _ _
  rw [hdistrib, hzero, hbit]
  rfl

/-- `WIFI_STA_ALIVE_CHK_STATE` is the bit of `WIFI_FW_AUTH_SUCCESS`. -/
theorem authed_aliveChk {info : StaInfo} (h : info.inState WIFI_STA_ALIVE_CHK_STATE = true) :
    info.authed = true := by
  unfold StaInfo.authed StaInfo.inState at *
  rw [bne_iff_ne] at *
  intro hzero
  apply h
  have hmask : WIFI_STA_ALIVE_CHK_STATE =
      (WIFI_FW_AUTH_SUCCESS ||| WIFI_FW_ASSOC_SUCCESS) &&& WIFI_STA_ALIVE_CHK_STATE := by decide
  rw [hmask, ← BitVec.and_assoc, hzero]
  exact BitVec.zero_and

theorem wakeupInfo_authed {t : ℕ} {info : StaInfo} (h : (wakeupInfo t info).authed = true) :
    info.authed = true := by
  let awake := if (info.setSleepqLen 0).inState WIFI_SLEEP_STATE then
    (info.setSleepqLen 0).toggleState WIFI_SLEEP_STATE else info.setSleepqLen 0
  have hawake : awake.authed = true → info.authed = true := by
    intro hi
    by_cases hs : (info.setSleepqLen 0).inState WIFI_SLEEP_STATE = true
    · have e : awake = (info.setSleepqLen 0).toggleState WIFI_SLEEP_STATE := if_pos hs
      rw [e] at hi
      exact @authed_toggleState (info.setSleepqLen 0) WIFI_SLEEP_STATE (by decide) hi
    · have e : awake = info.setSleepqLen 0 := if_neg hs
      rw [e] at hi
      exact hi
  have hresult : wakeupInfo t info = if awake.inState WIFI_STA_ALIVE_CHK_STATE then
      (awake.toggleState WIFI_STA_ALIVE_CHK_STATE).setExpireTo t else awake := rfl
  rw [hresult] at h
  by_cases hc : awake.inState WIFI_STA_ALIVE_CHK_STATE = true
  · exact hawake (authed_aliveChk hc)
  · rw [if_neg hc] at h
    exact hawake h

theorem wakeupInfo_same (t : ℕ) (info : StaInfo) :
    info.SameStation (wakeupInfo t info) ∧ (wakeupInfo t info).aid = info.aid := by
  unfold wakeupInfo
  dsimp only
  split_ifs <;> exact ⟨⟨rfl, fun cap => by cases cap <;> rfl⟩, rfl⟩

/-- The settings that the timer reads. -/
structure SameClock (a a' : RtwAdapter) : Prop where
  expireTo : a'.stapriv.expireTo = a.stapriv.expireTo
  wifiSpec : a'.wifiSpec = a.wifiSpec
  activeKeepAliveCheck : a'.activeKeepAliveCheck = a.activeKeepAliveCheck

theorem SameClock.trans {a b c : RtwAdapter} (hab : SameClock a b) (hbc : SameClock b c) :
    SameClock a c where
  expireTo := hbc.expireTo.trans hab.expireTo
  wifiSpec := hbc.wifiSpec.trans hab.wifiSpec
  activeKeepAliveCheck := hbc.activeKeepAliveCheck.trans hab.activeKeepAliveCheck

theorem rtwFreeStainfo_expireTo (sp : StaPriv) (p : StaId) :
    (rtwFreeStainfo sp p).expireTo = sp.expireTo := by
  unfold rtwFreeStainfo releaseAid unlinkStainfo StaPriv.authListRemove
  split_ifs <;> rfl

theorem apFreeSta_clock (a : RtwAdapter) (p : StaId) : SameClock a (apFreeSta a p) := by
  rw [apFreeSta_eq]
  exact ⟨rtwFreeStainfo_expireTo (apLeft a p).stapriv p, rfl, rfl⟩

/-- The broadcast station, whose queue is sent when no station sleeps. -/
def wakeupBmc (a : RtwAdapter) : RtwAdapter :=
  match rtwGetBcmcStainfo a.stapriv with
  | none => a
  | some pstaBmc =>
    if a.stapriv.staDzBitmap &&& 0xfffe = 0 then
      (a.setInfo pstaBmc ((a.staInfo pstaBmc).setSleepqLen 0)).onStapriv (·.dzClear 0)
    else a

theorem wakeupStaToXmit_eq (a : RtwAdapter) (p : StaId) : wakeupStaToXmit a p =
    wakeupBmc ((a.setInfo p (wakeupInfo a.stapriv.expireTo (a.staInfo p))).onStapriv
      (·.dzClear (wakeupInfo a.stapriv.expireTo (a.staInfo p)).aid)) := rfl

theorem dzClear_step {P : Permits} (h : ApHistory) (aid : ℕ) :
    TableStep P h { h with ap := h.ap.onStapriv (·.dzClear aid) } :=
  .tune h _ ⟨rfl, rfl, rfl, fun _ => rfl⟩

theorem wakeupBmc_run {P : Permits} (h : ApHistory) (wf : h.Wf) :
    TableRun P h { h with ap := wakeupBmc h.ap } := by
  unfold wakeupBmc
  cases hbmc : rtwGetBcmcStainfo h.ap.stapriv with
  | none => exact ReflTransGen.refl
  | some q =>
    dsimp only
    split
    next =>
      have hedit := TableStep.edit (P := P) h q ((h.ap.staInfo q).setSleepqLen 0)
        ⟨rfl, fun cap => by cases cap <;> rfl⟩ rfl (wf.auth.authed q)
      exact (TableRun.single hedit).tail (dzClear_step _ 0)
    next => exact ReflTransGen.refl

/-- `wakeup_sta_to_xmit`. -/
theorem wakeupStaToXmit_run {P : Permits} (h : ApHistory) (wf : h.Wf) (p : StaId) :
    TableRun P h { h with ap := wakeupStaToXmit h.ap p } := by
  let info := wakeupInfo h.ap.stapriv.expireTo (h.ap.staInfo p)
  obtain ⟨hsame, haid⟩ := wakeupInfo_same h.ap.stapriv.expireTo (h.ap.staInfo p)
  have hedit := TableStep.edit (P := P) h p info hsame haid fun hi =>
    wf.auth.authed p (wakeupInfo_authed hi)
  have hawake := (TableRun.single hedit).tail (dzClear_step _ info.aid)
  exact hawake.trans (wakeupBmc_run _ (wf.run hawake))

theorem wakeupStaToXmit_other (a : RtwAdapter) (p q : StaId) (hq : q ≠ p) :
    ∃ len, (wakeupStaToXmit a p).staInfo q = (a.staInfo q).setSleepqLen len := by
  rw [wakeupStaToXmit_eq]
  let b := (a.setInfo p (wakeupInfo a.stapriv.expireTo (a.staInfo p))).onStapriv
    (·.dzClear (wakeupInfo a.stapriv.expireTo (a.staInfo p)).aid)
  have hb : b.staInfo q = a.staInfo q := staInfo_setInfo_other a p q _ hq
  show ∃ len, (wakeupBmc b).staInfo q = _
  rw [← hb]
  unfold wakeupBmc
  cases hbmc : rtwGetBcmcStainfo b.stapriv with
  | none => exact ⟨_, rfl⟩
  | some r =>
    dsimp only
    split
    next =>
      by_cases hr : q = r
      · subst hr
        exact ⟨0, staInfo_setInfo_self b q _⟩
      · exact ⟨_, staInfo_setInfo_other b r q _ hr⟩
    next => exact ⟨_, rfl⟩

theorem wakeupStaToXmit_asocList (a : RtwAdapter) (p : StaId) :
    (wakeupStaToXmit a p).stapriv.asocList = a.stapriv.asocList := by
  rw [wakeupStaToXmit_eq]
  unfold wakeupBmc
  split
  next => rfl
  next => split <;> rfl

theorem wakeupStaToXmit_clock (a : RtwAdapter) (p : StaId) : SameClock a (wakeupStaToXmit a p) := by
  rw [wakeupStaToXmit_eq]
  unfold wakeupBmc
  split
  next => exact ⟨rfl, rfl, rfl⟩
  next => split <;> exact ⟨rfl, rfl, rfl⟩

theorem stopStaXmit_run {P : Permits} (h : ApHistory) (wf : h.Wf) (p : StaId) (queued : ℕ) :
    TableRun P h { h with ap := stopStaXmit h.ap p queued } := by
  let info := (h.ap.staInfo p).setState WIFI_SLEEP_STATE
  have hedit := TableStep.edit (P := P) h p (info.setSleepqLen (info.sleepqLen + queued))
    ⟨rfl, fun cap => by cases cap <;> rfl⟩ rfl fun hi => wf.auth.authed p
      (@authed_setState (h.ap.staInfo p) WIFI_SLEEP_STATE (by decide) hi)
  have htune : TableStep P { h with ap := h.ap.setInfo p (info.setSleepqLen (info.sleepqLen + queued)) }
      { h with ap := stopStaXmit h.ap p queued } := .tune _ _ ⟨rfl, rfl, rfl, fun _ => rfl⟩
  exact (TableRun.single hedit).tail htune

/-- `process_pwrbit_data`. -/
theorem processPwrbitData_run {P : Permits} (h : ApHistory) (wf : h.Wf) (src : MacAddr) (pwrbit : Bool)
    (queued : ℕ) : TableRun P h { h with ap := processPwrbitData h.ap src pwrbit queued } := by
  unfold processPwrbitData
  cases rtwGetStainfo h.ap.stapriv (some src) with
  | none => exact ReflTransGen.refl
  | some p =>
    dsimp only
    split_ifs
    · exact ReflTransGen.refl
    · exact stopStaXmit_run h wf p queued
    · exact wakeupStaToXmit_run h wf p
    · exact ReflTransGen.refl

/-! ## The stations that authenticate -/

/-- While the timer goes through `auth_list`: the stations it has not come to, and those of `asoc_list`,
are as they were. -/
structure AuthAgeing (h : ApHistory) (rest : List StaId) (sp : StaPriv) : Prop where
  wf : (h.withSta sp).Wf
  expireTo : sp.expireTo = h.ap.stapriv.expireTo
  asocList : sp.asocList = h.ap.stapriv.asocList
  nodup : rest.Nodup
  listed : ∀ p ∈ rest, p ∈ sp.authList ∧ p ∈ h.ap.stapriv.authList
  kept : ∀ p ∈ rest, sp.staInfo p = h.ap.staInfo p
  keptAsoc : ∀ p ∈ sp.asocList, sp.staInfo p = h.ap.staInfo p

namespace AuthAgeing
variable {P : Permits} {h : ApHistory} {p : StaId} {rest : List StaId} {sp : StaPriv}

theorem age (ha : AuthAgeing h (p :: rest) sp) (t : ℕ) :
    TableStep P (h.withSta sp) (h.withSta (sp.setInfo p ((sp.staInfo p).setExpireTo t))) ∧
      AuthAgeing h rest (sp.setInfo p ((sp.staInfo p).setExpireTo t)) := by
  have hcons := List.nodup_cons.mp ha.nodup
  have hstep := TableStep.edit (P := P) (h.withSta sp) p ((sp.staInfo p).setExpireTo t)
    ⟨rfl, fun cap => by cases cap <;> rfl⟩ rfl (ha.wf.auth.authed p)
  refine ⟨hstep, ha.wf.step hstep, ha.expireTo, ha.asocList, hcons.2, ?_, ?_, ?_⟩
  · intro q hq
    exact ha.listed q (List.mem_cons_of_mem p hq)
  · intro q hq
    have hne : q ≠ p := fun e => hcons.1 (e ▸ hq)
    rw [setInfo_other _ _ _ _ hne]
    exact ha.kept q (List.mem_cons_of_mem p hq)
  · intro q hq
    have hne : q ≠ p := fun e => ha.wf.lists.apart p (ha.listed p List.mem_cons_self).1 (e ▸ hq)
    rw [setInfo_other _ _ _ _ hne]
    exact ha.keptAsoc q hq

/-- The station is taken off `auth_list` and freed. -/
theorem free (ha : AuthAgeing h rest sp) (hp : p ∈ sp.authList) (hrest : p ∉ rest)
    (permit : P.free (h.ap.setStapriv (sp.authListDel p)) p) :
    TableRun P (h.withSta sp) (h.withSta (rtwFreeStainfo (sp.authListDel p) p)) ∧
      AuthAgeing h rest (rtwFreeStainfo (sp.authListDel p) p) := by
  have hunlisted : p ∉ sp.asocList := ha.wf.lists.apart p hp
  have hdel := TableStep.authDel (P := P) (h.withSta sp) p hp
  have hfree := TableStep.free (P := P) (h.withSta (sp.authListDel p)) p permit
    (ha.wf.lists.authHashed p hp) hunlisted
  have hrun := (TableRun.single hdel).tail hfree
  have hlinks := rtwFreeStainfo_links (sp.authListDel p) p
  have hauth : (rtwFreeStainfo (sp.authListDel p) p).authList =
      listDelInit (listDelInit sp.authList p) p := congrArg TableLinks.authList hlinks
  have hasoc : (rtwFreeStainfo (sp.authListDel p) p).asocList = sp.asocList :=
    congrArg TableLinks.asocList hlinks
  refine ⟨hrun, ha.wf.run hrun, ?_, hasoc.trans ha.asocList, ha.nodup, ?_, ?_, ?_⟩
  · exact (rtwFreeStainfo_expireTo _ p).trans ha.expireTo
  · intro q hq
    have hne : q ≠ p := fun e => hrest (e ▸ hq)
    rw [hauth]
    exact ⟨mem_listDelInit.mpr ⟨mem_listDelInit.mpr ⟨(ha.listed q hq).1, hne⟩, hne⟩, (ha.listed q hq).2⟩
  · intro q hq
    have hne : q ≠ p := fun e => hrest (e ▸ hq)
    exact (rtwFreeStainfo_info_other _ p q hne).trans (ha.kept q hq)
  · intro q hq
    rw [hasoc] at hq
    have hne : q ≠ p := fun e => hunlisted (e ▸ hq)
    exact (rtwFreeStainfo_info_other _ p q hne).trans (ha.keptAsoc q hq)

theorem round (ha : AuthAgeing h (p :: rest) sp)
    (permit : p ∈ h.ap.stapriv.authList → (h.ap.staInfo p).expireTo = 1 → ∀ s : RtwAdapter,
      (s.staInfo p).aid = (h.ap.staInfo p).aid → (h.ap.staInfo p).SameStation (s.staInfo p) →
      P.free s p) :
    TableRun P (h.withSta sp) (h.withSta (authExpireOne sp p)) ∧
      AuthAgeing h rest (authExpireOne sp p) := by
  have hcons := List.nodup_cons.mp ha.nodup
  have hp := ha.listed p List.mem_cons_self
  have hinfo := ha.kept p List.mem_cons_self
  obtain ⟨hstep, hnext⟩ := ha.age (P := P) ((sp.staInfo p).expireTo - 1)
  unfold authExpireOne
  dsimp only
  split_ifs with hzero hone
  · refine ⟨ReflTransGen.refl, ha.wf, ha.expireTo, ha.asocList, hcons.2, ?_, ?_, ha.keptAsoc⟩
    · intro q hq
      exact ha.listed q (List.mem_cons_of_mem p hq)
    · intro q hq
      exact ha.kept q (List.mem_cons_of_mem p hq)
  · have hself : RtwAdapter.staInfo (h.ap.setStapriv
        ((sp.setInfo p ((sp.staInfo p).setExpireTo ((sp.staInfo p).expireTo - 1))).authListDel p)) p =
        (h.ap.staInfo p).setExpireTo ((sp.staInfo p).expireTo - 1) := by
      rw [← hinfo]
      exact setInfo_self sp p _
    have hfree := hnext.free (P := P) hp.1 hcons.1 (permit hp.2 (by rw [← hinfo]; exact hone) _
      (by rw [hself]; rfl) (by rw [hself]; exact ⟨rfl, fun cap => by cases cap <;> rfl⟩))
    exact ⟨(TableRun.single hstep).trans hfree.1, hfree.2⟩
  · exact ⟨TableRun.single hstep, hnext⟩

end AuthAgeing

theorem authExpire_run {P : Permits} (h : ApHistory) (wf : h.Wf)
    (permit : ∀ p ∈ h.ap.stapriv.authList, (h.ap.staInfo p).expireTo = 1 → ∀ s : RtwAdapter,
      (s.staInfo p).aid = (h.ap.staInfo p).aid → (h.ap.staInfo p).SameStation (s.staInfo p) →
      P.free s p) :
    TableRun P h { h with ap := authExpire h.ap } ∧ AuthAgeing h [] (authExpire h.ap).stapriv := by
  have hstart : AuthAgeing h h.ap.stapriv.authList h.ap.stapriv :=
    ⟨wf, rfl, rfl, wf.lists.authNodup, fun _ hp => ⟨hp, hp⟩, fun _ _ => rfl, fun _ _ => rfl⟩
  exact LoopRun.foldl_run (r := TableStep P) h.withSta authExpireOne (AuthAgeing h)
    (fun p rest sp ha => ha.round (permit p)) h.ap.stapriv.authList h.ap.stapriv hstart

/-! ## The stations that are associated -/

/-- The station of `asoc_list` is to be checked by a null data frame: `info` is what it is now. -/
structure ToCheck (a : RtwAdapter) (input : ExpireInput) (p : StaId) (info : StaInfo) : Prop where
  listed : p ∈ a.stapriv.asocList
  wifiSpec : a.wifiSpec ≠ 1
  active : a.activeKeepAliveCheck = true
  expired : (asocAge a.stapriv.expireTo (input.alive p) (a.staInfo p)).expireTo = 0
  linked : info.inState _FW_LINKED =
    (asocAge a.stapriv.expireTo (input.alive p) (a.staInfo p)).inState _FW_LINKED
  trycnt : info.keepAliveTrycnt =
    (asocAge a.stapriv.expireTo (input.alive p) (a.staInfo p)).keepAliveTrycnt
  aid : info.aid = (a.staInfo p).aid

/-- While the timer goes through `asoc_list`: the stations it has not come to are as they were up to their
sleep queue, and those it put aside are to be checked. -/
structure AsocAgeing (h : ApHistory) (input : ExpireInput) (rest : List StaId)
    (x : RtwAdapter × List StaId) : Prop where
  wf : ApHistory.Wf { h with ap := x.1 }
  clock : SameClock h.ap x.1
  nodup : rest.Nodup
  listed : ∀ p ∈ rest, p ∈ x.1.stapriv.asocList ∧ p ∈ h.ap.stapriv.asocList ∧ p ∉ x.2
  kept : ∀ p ∈ rest, ∃ len, x.1.staInfo p = (h.ap.staInfo p).setSleepqLen len
  chkNodup : x.2.Nodup
  toCheck : ∀ p ∈ x.2, ToCheck h.ap input p (x.1.staInfo p)

namespace AsocAgeing
variable {P : Permits} {h : ApHistory} {input : ExpireInput} {p : StaId} {rest chk : List StaId}
  {a : RtwAdapter}

theorem skip (ha : AsocAgeing h input (p :: rest) (a, chk)) : AsocAgeing h input rest (a, chk) where
  wf := ha.wf
  clock := ha.clock
  nodup := (List.nodup_cons.mp ha.nodup).2
  listed q hq := ha.listed q (List.mem_cons_of_mem p hq)
  kept q hq := ha.kept q (List.mem_cons_of_mem p hq)
  chkNodup := ha.chkNodup
  toCheck := ha.toCheck

theorem edit (ha : AsocAgeing h input rest (a, chk)) (hrest : p ∉ rest) (hchk : p ∉ chk)
    (hp : p ∈ a.stapriv.asocList) (info : StaInfo) (same : (a.staInfo p).SameStation info)
    (aid : info.aid = (a.staInfo p).aid) :
    TableStep P { h with ap := a } { h with ap := a.setInfo p info } ∧
      AsocAgeing h input rest (a.setInfo p info, chk) := by
  have hstep := TableStep.edit (P := P) { h with ap := a } p info same aid fun _ =>
    ha.wf.auth.asocAccepted p hp
  refine ⟨hstep, ha.wf.step hstep, ⟨ha.clock.expireTo, ha.clock.wifiSpec,
    ha.clock.activeKeepAliveCheck⟩, ha.nodup, ha.listed, ?_, ha.chkNodup, ?_⟩
  · intro q hq
    have hne : q ≠ p := fun e => hrest (e ▸ hq)
    show ∃ len, (a.setInfo p info).staInfo q = _
    rw [staInfo_setInfo_other _ _ _ _ hne]
    exact ha.kept q hq
  · intro q hq
    have hne : q ≠ p := fun e => hchk (e ▸ hq)
    show ToCheck h.ap input q ((a.setInfo p info).staInfo q)
    rw [staInfo_setInfo_other _ _ _ _ hne]
    exact ha.toCheck q hq

theorem putAside (ha : AsocAgeing h input rest (a, chk)) (hrest : p ∉ rest) (hchk : p ∉ chk)
    (hcheck : ToCheck h.ap input p (a.staInfo p)) : AsocAgeing h input rest (a, chk ++ [p]) where
  wf := ha.wf
  clock := ha.clock
  nodup := ha.nodup
  listed q hq := by
    obtain ⟨hasoc, hbefore, hnot⟩ := ha.listed q hq
    refine ⟨hasoc, hbefore, fun hmem => ?_⟩
    cases List.mem_append.mp hmem with
    | inl hold => exact hnot hold
    | inr hnew => exact hrest (List.mem_singleton.mp hnew ▸ hq)
  kept := ha.kept
  chkNodup := nodup_snoc ha.chkNodup hchk
  toCheck q hq := by
    cases List.mem_append.mp hq with
    | inl hold => exact ha.toCheck q hold
    | inr hnew =>
      rw [List.mem_singleton.mp hnew]
      exact hcheck

theorem leave (ha : AsocAgeing h input rest (a, chk)) (hrest : p ∉ rest) (hchk : p ∉ chk)
    (hp : p ∈ a.stapriv.asocList)
    (permit : ∀ s : RtwAdapter, (s.staInfo p).aid = (a.staInfo p).aid → (s.staInfo p).noCaps →
      P.free s p) :
    TableRun P { h with ap := a } { h with ap := apFreeSta (a.onStapriv (·.asocListDel p)) p } ∧
      AsocAgeing h input rest (apFreeSta (a.onStapriv (·.asocListDel p)) p, chk) := by
  let b := a.onStapriv (·.asocListDel p)
  have hleave := asocListLeave_run (P := P) { h with ap := a } ha.wf p fun _ => permit
  have heq : asocListLeave a p = apFreeSta b p := if_pos hp
  rw [heq] at hleave
  have hasoc : (apFreeSta b p).stapriv.asocList = listDelInit a.stapriv.asocList p :=
    congrArg TableLinks.asocList (apFreeSta_links b p)
  have hother : ∀ q, q ≠ p → (apFreeSta b p).staInfo q = a.staInfo q := fun q hq =>
    apFreeSta_info_other b p q hq
  have hclock : SameClock a b := ⟨rfl, rfl, rfl⟩
  refine ⟨hleave, ha.wf.run hleave, ha.clock.trans (hclock.trans (apFreeSta_clock b p)), ha.nodup, ?_,
    ?_, ha.chkNodup, ?_⟩
  · intro q hq
    have hne : q ≠ p := fun e => hrest (e ▸ hq)
    obtain ⟨hlisted, hbefore, hnot⟩ := ha.listed q hq
    refine ⟨?_, hbefore, hnot⟩
    show q ∈ (apFreeSta b p).stapriv.asocList
    rw [hasoc]
    exact mem_listDelInit.mpr ⟨hlisted, hne⟩
  · intro q hq
    have hne : q ≠ p := fun e => hrest (e ▸ hq)
    show ∃ len, (apFreeSta b p).staInfo q = _
    rw [hother q hne]
    exact ha.kept q hq
  · intro q hq
    have hne : q ≠ p := fun e => hchk (e ▸ hq)
    show ToCheck h.ap input q ((apFreeSta b p).staInfo q)
    rw [hother q hne]
    exact ha.toCheck q hq

theorem wakeup (ha : AsocAgeing h input rest (a, chk)) (hrest : p ∉ rest) (hchk : p ∉ chk) :
    TableRun P { h with ap := a } { h with ap := wakeupStaToXmit a p } ∧
      AsocAgeing h input rest (wakeupStaToXmit a p, chk) := by
  have hrun := wakeupStaToXmit_run (P := P) { h with ap := a } ha.wf p
  refine ⟨hrun, ha.wf.run hrun, ha.clock.trans (wakeupStaToXmit_clock a p), ha.nodup, ?_, ?_,
    ha.chkNodup, ?_⟩
  · intro q hq
    show q ∈ (wakeupStaToXmit a p).stapriv.asocList ∧ _
    rw [wakeupStaToXmit_asocList]
    exact ha.listed q hq
  · intro q hq
    have hne : q ≠ p := fun e => hrest (e ▸ hq)
    obtain ⟨len, hlen⟩ := wakeupStaToXmit_other a p q hne
    obtain ⟨len', hlen'⟩ := ha.kept q hq
    refine ⟨len, ?_⟩
    show (wakeupStaToXmit a p).staInfo q = _
    rw [hlen]
    show (a.staInfo q).setSleepqLen len = _
    have hbefore : a.staInfo q = (h.ap.staInfo q).setSleepqLen len' := hlen'
    rw [hbefore]
    rfl
  · intro q hq
    have hne : q ≠ p := fun e => hchk (e ▸ hq)
    obtain ⟨len, hlen⟩ := wakeupStaToXmit_other a p q hne
    show ToCheck h.ap input q ((wakeupStaToXmit a p).staInfo q)
    rw [hlen]
    have hcheck := ha.toCheck q hq
    exact ⟨hcheck.listed, hcheck.wifiSpec, hcheck.active, hcheck.expired, hcheck.linked, hcheck.trycnt,
      hcheck.aid⟩

theorem sleepq (ha : AsocAgeing h input rest (a, chk)) (hrest : p ∉ rest) (hchk : p ∉ chk)
    (hp : p ∈ a.stapriv.asocList) : ∃ a', sleepqAging a input p = some a' ∧
      TableRun P { h with ap := a } { h with ap := a' } ∧ AsocAgeing h input rest (a', chk) := by
  have hcnt : a.stapriv.asocListCnt.toNat ≠ 0 := by
    have hlen : a.stapriv.asocListCnt.toNat = a.stapriv.asocList.length := ha.wf.lists.asocCnt
    have hpos := List.length_pos_of_mem hp
    omega
  unfold sleepqAging
  dsimp only
  rw [if_neg hcnt]
  split
  next => exact ⟨_, rfl, ha.wakeup hrest hchk⟩
  next => exact ⟨a, rfl, ReflTransGen.refl, ha⟩

end AsocAgeing

theorem asocAge_sleepqLen (t len : ℕ) (alive : Bool) (info : StaInfo) :
    asocAge t alive (info.setSleepqLen len) = (asocAge t alive info).setSleepqLen len := by
  unfold asocAge
  have hexpire : (info.setSleepqLen len).expireTo = info.expireTo := rfl
  rw [hexpire]
  split <;> rfl

theorem asocAge_same (t : ℕ) (alive : Bool) (info : StaInfo) :
    info.SameStation (asocAge t alive info) ∧ (asocAge t alive info).aid = info.aid := by
  unfold asocAge
  split <;> exact ⟨⟨rfl, fun cap => by cases cap <;> rfl⟩, rfl⟩

theorem AsocAgeing.round {P : Permits} {h : ApHistory} {input : ExpireInput} {p : StaId}
    {rest chk : List StaId} {a : RtwAdapter} (ha : AsocAgeing h input (p :: rest) (a, chk))
    (permit : AsocExpires h.ap input p → ∀ s : RtwAdapter, (s.staInfo p).aid = (h.ap.staInfo p).aid →
      (s.staInfo p).noCaps → P.free s p) :
    ∃ x, asocCheckOne input (a, chk) p = some x ∧
      TableRun P { h with ap := a } { h with ap := x.1 } ∧ AsocAgeing h input rest x := by
  have hrest := (List.nodup_cons.mp ha.nodup).1
  obtain ⟨hp, hbefore, hchk⟩ := ha.listed p List.mem_cons_self
  obtain ⟨len, hkept⟩ := ha.kept p List.mem_cons_self
  let expireTo := a.stapriv.expireTo
  let info := asocAge expireTo (input.alive p) (a.staInfo p)
  obtain ⟨hsame, haid⟩ := asocAge_same expireTo (input.alive p) (a.staInfo p)
  obtain ⟨hstep1, ha1⟩ := ha.skip.edit (P := P) hrest hchk hp info hsame haid
  let a1 := a.setInfo p info
  have hself1 : a1.staInfo p = info := staInfo_setInfo_self a p info
  -- The time of the station is what it would be at the start of the timer.
  have hinfo : info =
      (asocAge h.ap.stapriv.expireTo (input.alive p) (h.ap.staInfo p)).setSleepqLen len := by
    have hexpireTo : expireTo = h.ap.stapriv.expireTo := ha.clock.expireTo
    show asocAge expireTo (input.alive p) (a.staInfo p) = _
    rw [show a.staInfo p = _ from hkept, hexpireTo]
    exact asocAge_sleepqLen _ len _ _
  have haid0 : info.aid = (h.ap.staInfo p).aid := by
    rw [hinfo]
    exact (asocAge_same _ _ _).2
  have hspec0 : a.wifiSpec = h.ap.wifiSpec := ha.clock.wifiSpec
  have hactive0 : a.activeKeepAliveCheck = h.ap.activeKeepAliveCheck := ha.clock.activeKeepAliveCheck
  by_cases hexpired : info.expireTo = 0
  case neg =>
    obtain ⟨a', hresult, hrun, ha'⟩ := ha1.sleepq (P := P) hrest hchk hp
    refine ⟨(a', chk), ?_, (TableRun.single hstep1).trans hrun, ha'⟩
    unfold asocCheckOne
    dsimp only
    rw [if_neg hexpired, hresult]
    rfl
  have hexpired0 : (asocAge h.ap.stapriv.expireTo (input.alive p) (h.ap.staInfo p)).expireTo = 0 := by
    rw [hinfo] at hexpired
    exact hexpired
  by_cases hspec : a.wifiSpec = 1
  · have hspec1 : a1.wifiSpec = 1 := hspec
    obtain ⟨hstep2, ha2⟩ := ha1.edit (P := P) hrest hchk hp (info.setExpireTo expireTo)
      (by rw [hself1]; exact ⟨rfl, fun cap => by cases cap <;> rfl⟩) (by rw [hself1]; rfl)
    refine ⟨_, ?_, (TableRun.single hstep1).tail hstep2, ha2⟩
    unfold asocCheckOne
    dsimp only
    rw [if_pos hexpired, if_pos hspec1]
  have hspec1 : ¬ a1.wifiSpec = 1 := hspec
  have hcheck : ∀ i : StaInfo, i.inState _FW_LINKED = info.inState _FW_LINKED →
      i.keepAliveTrycnt = info.keepAliveTrycnt → i.aid = info.aid →
      a.activeKeepAliveCheck = true → ToCheck h.ap input p i := by
    intro i hlinked htrycnt hi hactive
    rw [hinfo] at hlinked htrycnt
    exact ⟨hbefore, fun e => hspec (hspec0.trans e), hactive0 ▸ hactive, hexpired0, hlinked, htrycnt,
      hi.trans haid0⟩
  by_cases hdozing : (info.inState WIFI_SLEEP_STATE && !info.inState WIFI_STA_ALIVE_CHK_STATE) = true
  · let asked := (info.setExpireTo expireTo).setState WIFI_STA_ALIVE_CHK_STATE
    obtain ⟨hstep2, ha2⟩ := ha1.edit (P := P) hrest hchk hp asked
      (by rw [hself1]; exact ⟨rfl, fun cap => by cases cap <;> rfl⟩) (by rw [hself1]; rfl)
    have hrun := (TableRun.single hstep1).tail hstep2
    by_cases hactive : a.activeKeepAliveCheck = true
    · have hlinked : asked.inState _FW_LINKED = info.inState _FW_LINKED := by
        unfold StaInfo.inState
        have hbit : asked.state &&& _FW_LINKED = info.state &&& _FW_LINKED := by
          show (info.state ||| WIFI_STA_ALIVE_CHK_STATE) &&& _FW_LINKED = _
          rw [BitVec.and_comm, BitVec.and_or_distrib_left, BitVec.and_comm _ info.state]
          have hapart : _FW_LINKED &&& WIFI_STA_ALIVE_CHK_STATE = 0 := by decide
          rw [hapart]
          exact BitVec.or_zero
        rw [hbit]
      refine ⟨_, ?_, hrun, ha2.putAside hrest hchk (hcheck _ ?_ ?_ ?_ hactive)⟩
      · unfold asocCheckOne
        dsimp only
        rw [if_pos hexpired, if_neg hspec1, if_pos hdozing]
        exact if_pos hactive
      · rw [staInfo_setInfo_self]
        exact hlinked
      · rw [staInfo_setInfo_self]
        rfl
      · rw [staInfo_setInfo_self]
        rfl
    · refine ⟨_, ?_, hrun, ha2⟩
      unfold asocCheckOne
      dsimp only
      rw [if_pos hexpired, if_neg hspec1, if_pos hdozing, if_pos hdozing]
      exact if_neg hactive
  · by_cases hactive : a.activeKeepAliveCheck = true
    · refine ⟨_, ?_, TableRun.single hstep1, ha1.putAside hrest hchk (hcheck _ ?_ ?_ ?_ hactive)⟩
      · unfold asocCheckOne
        dsimp only
        rw [if_pos hexpired, if_neg hspec1, if_neg hdozing]
        exact if_pos hactive
      all_goals rw [staInfo_setInfo_self]
    · have hexpires : AsocExpires h.ap input p := by
        refine ⟨hbefore, hexpired0, fun e => hspec (hspec0.trans e), ?_⟩
        rw [← hactive0, if_neg hactive]
        rw [hinfo] at hdozing
        exact Bool.eq_false_iff.mpr hdozing
      obtain ⟨hrun, ha2⟩ := ha1.leave (P := P) hrest hchk hp fun s hs hcaps =>
        permit hexpires s (hs.trans ((congrArg StaInfo.aid hself1).trans haid0)) hcaps
      refine ⟨_, ?_, (TableRun.single hstep1).trans hrun, ha2⟩
      unfold asocCheckOne
      dsimp only
      rw [if_pos hexpired, if_neg hspec1, if_neg hdozing, if_neg hdozing]
      exact if_neg hactive

theorem asocCheck_run {P : Permits} (h : ApHistory) (input : ExpireInput) (a : RtwAdapter)
    (hclock : SameClock h.ap a) (ha : AuthAgeing h [] a.stapriv) (wf : ApHistory.Wf { h with ap := a })
    (permit : ∀ p, AsocExpires h.ap input p → ∀ s : RtwAdapter,
      (s.staInfo p).aid = (h.ap.staInfo p).aid → (s.staInfo p).noCaps → P.free s p) :
    ∃ x, asocCheck a input = some x ∧ TableRun P { h with ap := a } { h with ap := x.1 } ∧
      AsocAgeing h input [] x := by
  have hstart : AsocAgeing h input a.stapriv.asocList (a, []) := by
    refine ⟨wf, hclock, wf.lists.asocNodup, fun p hp => ⟨hp, ?_, List.not_mem_nil⟩, fun p hp => ?_,
      List.nodup_nil, ?_⟩
    · rw [← ha.asocList]
      exact hp
    · have hsame := ha.keptAsoc p hp
      exact ⟨(h.ap.staInfo p).sleepqLen, hsame⟩
    · intro p hp
      cases hp
  exact LoopRun.foldlM_run (r := TableStep P)
    (fun x : RtwAdapter × List StaId => ({ h with ap := x.1 } : ApHistory)) (asocCheckOne input)
    (AsocAgeing h input) (fun p rest x hx => hx.round (permit p)) a.stapriv.asocList (a, []) hstart

/-! ## The stations that are checked -/

/-- While the timer checks the stations it put aside: those that are left are as it put them aside. -/
structure KeepAlive (h : ApHistory) (input : ExpireInput) (rest : List StaId) (a : RtwAdapter) :
    Prop where
  wf : ApHistory.Wf { h with ap := a }
  nodup : rest.Nodup
  toCheck : ∀ p ∈ rest, ToCheck h.ap input p (a.staInfo p)

namespace KeepAlive
variable {P : Permits} {h : ApHistory} {input : ExpireInput} {p : StaId} {rest : List StaId}
  {a : RtwAdapter}

theorem next (ha : KeepAlive h input (p :: rest) a) (b : RtwAdapter)
    (wf : ApHistory.Wf { h with ap := b }) (hother : ∀ q, q ≠ p → b.staInfo q = a.staInfo q) :
    KeepAlive h input rest b := by
  have hcons := List.nodup_cons.mp ha.nodup
  refine ⟨wf, hcons.2, fun q hq => ?_⟩
  have hne : q ≠ p := fun e => hcons.1 (e ▸ hq)
  rw [hother q hne]
  exact ha.toCheck q (List.mem_cons_of_mem p hq)

theorem edit (ha : KeepAlive h input (p :: rest) a) (info : StaInfo)
    (same : (a.staInfo p).SameStation info) (aid : info.aid = (a.staInfo p).aid)
    (hauthed : info.authed = true → (a.staInfo p).authed = true) :
    TableStep P { h with ap := a } { h with ap := a.setInfo p info } ∧
      KeepAlive h input rest (a.setInfo p info) := by
  have hstep := TableStep.edit (P := P) { h with ap := a } p info same aid fun hi =>
    ha.wf.auth.authed p (hauthed hi)
  exact ⟨hstep, ha.next _ (ha.wf.step hstep) fun q hq => staInfo_setInfo_other a p q info hq⟩

theorem asocListLeave_other (a : RtwAdapter) (p q : StaId) (hq : q ≠ p) :
    (asocListLeave a p).staInfo q = a.staInfo q := by
  unfold asocListLeave
  split
  next => exact apFreeSta_info_other (a.onStapriv (·.asocListDel p)) p q hq
  next => rfl

theorem round (ha : KeepAlive h input (p :: rest) a)
    (permit : AsocExpires h.ap input p → ∀ s : RtwAdapter, (s.staInfo p).aid = (h.ap.staInfo p).aid →
      (s.staInfo p).noCaps → P.free s p) :
    TableRun P { h with ap := a } { h with ap := keepAliveOne input a p } ∧
      KeepAlive h input rest (keepAliveOne input a p) := by
  have hcheck := ha.toCheck p List.mem_cons_self
  unfold keepAliveOne
  dsimp only
  split_ifs with hunlinked hacked htrycnt
  · exact ⟨ReflTransGen.refl, ha.next a ha.wf fun _ _ => rfl⟩
  · obtain ⟨hstep, hnext⟩ := ha.edit (P := P)
      (((a.staInfo p).setExpireTo a.stapriv.expireTo).setKeepAliveTrycnt 0)
      ⟨rfl, fun cap => by cases cap <;> rfl⟩ rfl id
    exact ⟨TableRun.single hstep, hnext⟩
  · obtain ⟨hstep, hnext⟩ := ha.edit (P := P)
      (((a.staInfo p).setExpireTo 1).setKeepAliveTrycnt ((a.staInfo p).keepAliveTrycnt + 1))
      ⟨rfl, fun cap => by cases cap <;> rfl⟩ rfl id
    exact ⟨TableRun.single hstep, hnext⟩
  · let b := a.setInfo p ((a.staInfo p).setKeepAliveTrycnt 0)
    obtain ⟨hstep, hnext⟩ := ha.edit (P := P) ((a.staInfo p).setKeepAliveTrycnt 0)
      ⟨rfl, fun cap => by cases cap <;> rfl⟩ rfl id
    have hself : b.staInfo p = (a.staInfo p).setKeepAliveTrycnt 0 := staInfo_setInfo_self a p _
    have hexpires : AsocExpires h.ap input p := by
      refine ⟨hcheck.listed, hcheck.expired, hcheck.wifiSpec, ?_⟩
      rw [if_pos hcheck.active, ← hcheck.linked, ← hcheck.trycnt]
      exact ⟨by simpa using hunlinked, Bool.eq_false_iff.mpr hacked, htrycnt⟩
    have hleave := asocListLeave_run (P := P) { h with ap := b } hnext.wf p fun _ s hs hcaps =>
      permit hexpires s (hs.trans ((congrArg StaInfo.aid hself).trans hcheck.aid)) hcaps
    refine ⟨(TableRun.single hstep).trans hleave, ha.next _ (hnext.wf.run hleave) fun q hq => ?_⟩
    exact (asocListLeave_other b p q hq).trans (staInfo_setInfo_other a p q _ hq)

end KeepAlive

/-- `expire_timeout_chk` has a result, and is a run of the table. -/
theorem expireTimeoutChk_run (h : ApHistory) (wf : h.Wf) (input : ExpireInput) :
    ∃ ap, expireTimeoutChk h.ap input = some ap ∧
      TableRun (eventPermits h.ap (.expire input)) h { h with ap := ap } := by
  have hleaves : ∀ p, AsocExpires h.ap input p → ∀ s : RtwAdapter,
      (s.staInfo p).aid = (h.ap.staInfo p).aid → (s.staInfo p).noCaps →
      (eventPermits h.ap (.expire input)).free s p :=
    fun p hexpires s haid hcaps => Or.inr ⟨haid, Or.inr ⟨hexpires, hcaps⟩⟩
  obtain ⟨hrun1, hauth⟩ := authExpire_run (P := eventPermits h.ap (.expire input)) h wf
    fun p hp hone s haid hsame => Or.inr ⟨haid, Or.inl ⟨⟨hp, hone⟩, hsame⟩⟩
  have hclock : SameClock h.ap (authExpire h.ap) := ⟨hauth.expireTo, rfl, rfl⟩
  obtain ⟨⟨a, chk⟩, hresult, hrun2, hasoc⟩ := asocCheck_run h input (authExpire h.ap) hclock hauth
    (wf.run hrun1) hleaves
  have hchk : KeepAlive h input chk a := ⟨hasoc.wf, hasoc.chkNodup, hasoc.toCheck⟩
  obtain ⟨hrun3, -⟩ := LoopRun.foldl_run (r := TableStep (eventPermits h.ap (.expire input)))
    (fun b : RtwAdapter => ({ h with ap := b } : ApHistory)) (keepAliveOne input) (KeepAlive h input)
    (fun p rest b hb => hb.round (hleaves p)) chk a hchk
  refine ⟨chk.foldl (keepAliveOne input) a, ?_, (hrun1.trans hrun2).trans hrun3⟩
  unfold expireTimeoutChk
  rw [hresult]
  rfl

end Rtl8723au
