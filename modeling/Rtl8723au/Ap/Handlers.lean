import Rtl8723au.Ap.Ageing

/-! Every event of the access point is a run of operations on the station table, and has a result. -/
namespace Rtl8723au
open Relation
set_option autoImplicit false

/-! ## The start -/

theorem wf_init (config : RtwAdapter) :
    ApHistory.Wf { ap := { config with stapriv := rtwInitStaPriv } } where
  table :=
    { bucket := fun _ _ hp => absurd hp List.not_mem_nil
      hashNodup := fun _ => List.nodup_nil
      freeNodup := List.nodup_finRange 32
      freeUnhashed := fun _ _ _ => List.not_mem_nil }
  lists :=
    { authNodup := List.nodup_nil
      asocNodup := List.nodup_nil
      authHashed := fun _ hp => absurd hp List.not_mem_nil
      asocHashed := fun _ hp => absurd hp List.not_mem_nil
      apart := fun _ hp => absurd hp List.not_mem_nil
      authCnt := rfl
      asocCnt := rfl }
  auth :=
    { authed := fun p hp => by
        have hstate : initStainfo.authed = false := by decide
        rw [show (RtwAdapter.stapriv { config with stapriv := rtwInitStaPriv }).staInfo p =
          initStainfo from rfl, hstate] at hp
        exact absurd hp Bool.false_ne_true
      asocAccepted := fun _ hp => absurd hp List.not_mem_nil
      valid := fun _ _ hr => absurd hr (Option.some_ne_none _).symm }

/-- The entries left when the broadcast entry is allocated. -/
def otherEntries : List StaId := (List.finRange 32).tail

def bcmcTable : StaPriv :=
  ((rtwInitStaPriv.setFreeStaQueue otherEntries).setInfo 0 (allocInfo bcAddr)).hashAdd
    (wifiMacHash bcAddr) 0

theorem rtwAllocStainfo_init : rtwAllocStainfo rtwInitStaPriv bcAddr = (bcmcTable, some 0) := rfl

theorem start_wf (config : RtwAdapter) : (ApHistory.start config).Wf := by
  have halloc := TableStep.alloc (P := {}) { ap := { config with stapriv := rtwInitStaPriv } } bcAddr 0
    bcmcTable trivial rfl rtwAllocStainfo_init
  have hwf1 := (wf_init config).step halloc
  have hedit := TableStep.edit (P := {}) _ 0 { bcmcTable.staInfo 0 with macId := 1 }
    ⟨rfl, fun cap => by cases cap <;> rfl⟩ rfl (hwf1.auth.authed 0)
  have hwf2 := hwf1.step hedit
  have hnone : Function.update (fun _ : StaId => (none : Option AuthRecord)) 0 none = fun _ => none :=
    Function.update_eq_self 0 _
  refine ⟨hwf2.table, hwf2.lists, ?_⟩
  have hauth := hwf2.auth
  rw [show Function.update (ApHistory.accepted
    { ap := { config with stapriv := rtwInitStaPriv } }) 0 none = fun _ => none from hnone] at hauth
  exact hauth

/-! ## The events -/

theorem onLeaveFrame_run {P : Permits} (h : ApHistory) (wf : h.Wf) (addr2 addr3 : MacAddr)
    (permit : ∀ p, addr3 = h.ap.bssid ∧ rtwGetStainfo h.ap.stapriv (some addr2) = some p ∧
        p ∈ h.ap.stapriv.asocList → ∀ s : RtwAdapter, (s.staInfo p).aid = (h.ap.staInfo p).aid →
      (s.staInfo p).noCaps → P.free s p) :
    TableRun P h { h with ap := onLeaveFrame h.ap addr2 addr3 } := by
  unfold onLeaveFrame
  by_cases hbssid : addr3 = h.ap.bssid
  case neg =>
    rw [if_pos hbssid]
  rw [if_neg (not_not.mpr hbssid)]
  split
  next =>
    cases hfind : rtwGetStainfo h.ap.stapriv (some addr2) with
    | none => exact ReflTransGen.refl
    | some p => exact asocListLeave_run h wf p fun hp => permit p ⟨hbssid, hfind, hp⟩
  next => exact ReflTransGen.refl

theorem rtwStaFlush_eventRun {P : Permits} (h : ApHistory) (wf : h.Wf)
    (permit : ∀ p, inApState h.ap ∧ p ∈ h.ap.stapriv.asocList → ∀ s : RtwAdapter,
      (s.staInfo p).aid = (h.ap.staInfo p).aid → (s.staInfo p).noCaps → P.free s p) :
    TableRun P h { h with ap := rtwStaFlush h.ap } := by
  by_cases hap : inApState h.ap
  · exact (rtwStaFlush_run h wf hap fun p hp => permit p ⟨hap, hp⟩).1
  · rw [rtwStaFlush_idle hap]

theorem flushAllStainfo_run (h : ApHistory) (wf : h.Wf) :
    TableRun (eventPermits h.ap .freeAllStainfo) h { h with ap := flushAllStainfo h.ap } := by
  by_cases hap : inApState h.ap
  case neg =>
    have e : flushAllStainfo h.ap = h.ap := if_pos hap
    rw [e]
  unfold flushAllStainfo
  rw [if_neg (ap_gate hap)]
  obtain ⟨hflush, hflushing⟩ := rtwStaFlush_run (P := eventPermits h.ap .freeAllStainfo) h wf hap
    fun p hp s haid hcaps => Or.inr ⟨haid, Or.inr ⟨⟨hap, hp⟩, hcaps⟩⟩
  refine hflush.trans (rtwFreeAllStainfo_run hflushing.emptying fun p hp hasoc s hs => ?_)
  refine Or.inr ⟨congrArg StaInfo.aid hs, Or.inl ⟨⟨hap, hp, hasoc⟩, ?_⟩⟩
  rw [hs]
  exact ⟨rfl, fun _ => rfl⟩

theorem cfg80211RtwDelStation_run (h : ApHistory) (wf : h.Wf) (mac : Option MacAddr) :
    TableRun (eventPermits h.ap (.delStation mac)) h { h with ap := cfg80211RtwDelStation h.ap mac } := by
  unfold cfg80211RtwDelStation
  split
  next => exact ReflTransGen.refl
  cases mac with
  | none =>
    exact rtwStaFlush_eventRun h wf fun p hp s haid hcaps => Or.inr ⟨haid, Or.inr ⟨hp, hcaps⟩⟩
  | some mac =>
    dsimp only
    split
    next => exact ReflTransGen.refl
    cases htarget : delStationTarget h.ap mac with
    | none =>
      have hfind : (h.ap.stapriv.asocList.find? fun psta =>
          mac == (h.ap.staInfo psta).hwaddr &&
            !((h.ap.staInfo psta).dot8021xalg == 1 && !(h.ap.staInfo psta).bpairwiseKeyInstalled)) =
          none := htarget
      rw [hfind]
    | some p =>
      have hfind : (h.ap.stapriv.asocList.find? fun psta =>
          mac == (h.ap.staInfo psta).hwaddr &&
            !((h.ap.staInfo psta).dot8021xalg == 1 && !(h.ap.staInfo psta).bpairwiseKeyInstalled)) =
          some p := htarget
      rw [hfind]
      exact asocListLeave_run h wf p fun _ s haid hcaps => Or.inr ⟨haid, Or.inr ⟨htarget, hcaps⟩⟩

/-- The state of the entry of the access point is not one that follows an authentication. -/
theorem allocBssStainfo_run (h : ApHistory) (wf : h.Wf) (macAddress : MacAddr) :
    TableRun (eventPermits h.ap (.allocBss macAddress)) h
      (h.recordAlloc macAddress (allocBssStainfo h.ap macAddress)) := by
  have hbit : BitVec.ofNat 32 WIFI_AP_STATE &&& (WIFI_FW_AUTH_SUCCESS ||| WIFI_FW_ASSOC_SUCCESS) = 0 := by
    decide
  unfold ApHistory.recordAlloc allocBssStainfo
  dsimp only
  cases hfind : rtwGetStainfo h.ap.stapriv (some macAddress) with
  | some p =>
    exact TableRun.single (.edit h p _ ⟨rfl, fun cap => by cases cap <;> rfl⟩ rfl fun hi =>
      wf.auth.authed p (authed_setState hbit hi))
  | none =>
    cases hfree : h.ap.stapriv.freeStaQueue with
    | nil =>
      have halloc : rtwAllocStainfo h.ap.stapriv macAddress = (h.ap.stapriv, none) := by
        unfold rtwAllocStainfo
        rw [hfree]
      simp only [halloc]
      exact ReflTransGen.refl
    | cons p rest =>
      let sp := ((h.ap.stapriv.setFreeStaQueue rest).setInfo p (allocInfo macAddress)).hashAdd
        (wifiMacHash macAddress) p
      have halloc : rtwAllocStainfo h.ap.stapriv macAddress = (sp, some p) := by
        unfold rtwAllocStainfo
        rw [hfree]
      have hstep := TableStep.alloc (P := eventPermits h.ap (.allocBss macAddress)) h macAddress p sp
        ⟨rfl, rfl, hfind⟩ hfind halloc
      have hwf := wf.step hstep
      simp only [halloc]
      exact (TableRun.single hstep).tail (.edit _ p _ ⟨rfl, fun cap => by cases cap <;> rfl⟩ rfl fun hi =>
        hwf.auth.authed p (authed_setState hbit hi))

theorem ApHistory.step_run (h : ApHistory) (wf : h.Wf) (event : ApEvent) :
    ∃ h', h.step event = some h' ∧ TableRun (eventPermits h.ap event) h h' := by
  cases event with
  | auth frame => exact ⟨_, rfl, onAuth_run h wf frame⟩
  | assocReq req => exact ⟨_, rfl, onAssocReq_run h wf req⟩
  | deAuth addr2 addr3 =>
    refine ⟨_, rfl, onLeaveFrame_run h wf addr2 addr3 fun p hp s haid hcaps => ?_⟩
    exact Or.inr ⟨haid, Or.inr ⟨hp, hcaps⟩⟩
  | disassoc addr2 addr3 =>
    refine ⟨_, rfl, onLeaveFrame_run h wf addr2 addr3 fun p hp s haid hcaps => ?_⟩
    exact Or.inr ⟨haid, Or.inr ⟨hp, hcaps⟩⟩
  | expire input =>
    obtain ⟨ap, hap, hrun⟩ := expireTimeoutChk_run h wf input
    refine ⟨{ h with ap := ap }, ?_, hrun⟩
    show (expireTimeoutChk h.ap input).map _ = _
    rw [hap]
    rfl
  | staFlush =>
    refine ⟨_, rfl, rtwStaFlush_eventRun h wf fun p hp s haid hcaps => ?_⟩
    exact Or.inr ⟨haid, Or.inr ⟨hp, hcaps⟩⟩
  | freeAllStainfo => exact ⟨_, rfl, flushAllStainfo_run h wf⟩
  | delStation mac => exact ⟨_, rfl, cfg80211RtwDelStation_run h wf mac⟩
  | pwrbit src pwrbit queued => exact ⟨_, rfl, processPwrbitData_run h wf src pwrbit queued⟩
  | allocBss macAddress => exact ⟨_, rfl, allocBssStainfo_run h wf macAddress⟩
  | setMaxNumSta n => exact ⟨_, rfl, TableRun.single (.tune h _ ⟨rfl, rfl, rfl, fun _ => rfl⟩)⟩

/-! ## Runs of events -/

/-- Every event of the run meets the condition in the state in which it comes. -/
def ApHistory.Along (good : RtwAdapter → ApEvent → Prop) (h : ApHistory) : List ApEvent → Prop
  | [] => True
  | event :: events => good h.ap event ∧ ∀ h', h.step event = some h' → h'.Along good events

end Rtl8723au
