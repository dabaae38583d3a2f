import Rtl8723au.Ap.Events

/-! The ways out of the cell as runs of the station table: `ap_free_sta`, the frames that end an
association, the flushes, and power save. -/
namespace Rtl8723au
open Relation
set_option autoImplicit false

/-! ## The counted capabilities -/

section
variable (info : StaInfo) (m : MlmePriv) (c c' : BssCap) (on : Bool) (d : ℤ)

theorem withCap_capSet : (info.withCap c on).capSet c' = if c' = c then on else info.capSet c' := by
  cases c <;> cases c' <;> rfl

theorem addNumSta_numSta : (m.addNumSta c d).numSta c' = if c' = c then m.numSta c + d else m.numSta c' := by
  cases c <;> cases c' <;> rfl

theorem withCap_hwaddr : (info.withCap c on).hwaddr = info.hwaddr := by cases c <;> rfl

theorem withCap_aid : (info.withCap c on).aid = info.aid := by cases c <;> rfl

theorem withCap_state : (info.withCap c on).state = info.state := by cases c <;> rfl

end

namespace CapMoved

theorem refl (x : CapState) : CapMoved x x := ⟨rfl, rfl, rfl, fun _ => rfl⟩

theorem trans {x y z : CapState} (hxy : CapMoved x y) (hyz : CapMoved y z) : CapMoved x z where
  hwaddr := hyz.hwaddr.trans hxy.hwaddr
  aid := hyz.aid.trans hxy.aid
  state := hyz.state.trans hxy.state
  balance cap := (hyz.balance cap).trans (hxy.balance cap)

theorem flip (x : CapState) (c : BssCap) (on : Bool) (h : x.1.capSet c = !on) :
    CapMoved x (x.1.withCap c on, x.2.addNumSta c (if on then 1 else -1)) where
  hwaddr := withCap_hwaddr x.1 c on
  aid := withCap_aid x.1 c on
  state := withCap_state x.1 c on
  balance cap := by
    dsimp only
    rw [withCap_capSet, addNumSta_numSta]
    by_cases hc : cap = c
    · subst hc
      rw [h]
      cases on with
      | true => simp
      | false => simp only [Bool.false_eq_true, if_false, if_true, Bool.not_false]; ring
    · simp [hc]

theorem mark (c : BssCap) (x : CapState) : CapMoved x (capMark c x) := by
  unfold capMark
  split
  next => exact refl x
  next h => exact flip x c true (by simpa using h)

theorem unmark (c : BssCap) (x : CapState) : CapMoved x (capUnmark c x) := by
  unfold capUnmark
  split
  next h => exact flip x c false h
  next => exact refl x

theorem update (c : BssCap) (lacking : Bool) (x : CapState) : CapMoved x (capUpdate c lacking x) := by
  unfold capUpdate
  split
  next => exact mark c x
  next => exact unmark c x

theorem leave (x : CapState) : CapMoved x (capLeave x) := by
  unfold capLeave
  exact (((((unmark _ x).trans (unmark _ _)).trans (unmark _ _)).trans (unmark _ _)).trans
    (unmark _ _)).trans (unmark _ _)

theorem ite {p : Prop} [Decidable p] {x y z : CapState} (hy : CapMoved x y) (hz : CapMoved x z) :
    CapMoved x (if p then y else z) := by
  split
  next => exact hy
  next => exact hz

theorem htJoin (x : CapState) : CapMoved x (htCapJoin x) := by
  unfold htCapJoin
  refine ite ?_ (mark _ x)
  have hnoHt := unmark .noHt x
  have hgf : CapMoved x (if x.1.htCapInfo &&& IEEE80211_HT_CAP_GRN_FLD = 0 then
      capMark .noHtGf (capUnmark .noHt x) else capUnmark .noHt x) :=
    ite (hnoHt.trans (mark .noHtGf _)) hnoHt
  exact ite (hgf.trans (mark .ht20mhz _)) hgf

theorem join (x : CapState) : CapMoved x (capJoin x) := by
  unfold capJoin
  exact (((update _ _ x).trans (update _ _ _)).trans (update _ _ _)).trans (htJoin _)

end CapMoved

theorem capUnmark_capSet (c c' : BssCap) (x : CapState) :
    (capUnmark c x).1.capSet c' = if c' = c then false else x.1.capSet c' := by
  unfold capUnmark
  split
  next => exact withCap_capSet x.1 c c' false
  next h =>
    split
    next e => subst e; simpa using h
    next => rfl

theorem capLeave_noCaps (x : CapState) : (capLeave x).1.noCaps := by
  intro c
  unfold capLeave
  simp only [capUnmark_capSet]
  cases c <;> rfl

/-! ## `ap_free_sta` -/

section
variable (a : RtwAdapter) (p q : StaId)

/-- The station as `ap_free_sta` hands it to `rtw_free_stainfo`. -/
def leftState : CapState := capLeave ((a.staInfo p).clearState _FW_LINKED, a.mlmepriv)

theorem leftState_aid : (leftState a p).1.aid = (a.staInfo p).aid :=
  (CapMoved.leave ((a.staInfo p).clearState _FW_LINKED, a.mlmepriv)).aid

/-- The driver in front of `rtw_free_stainfo`. -/
def apLeft : RtwAdapter := { a.setInfo p (leftState a p).1 with mlmepriv := (leftState a p).2 }

theorem setInfo_setInfo (info info' : StaInfo) :
    (a.setInfo p info).setInfo p info' = a.setInfo p info' := by
  simp [RtwAdapter.setInfo, StaPriv.setInfo]

theorem apFreeSta_eq : apFreeSta a p = (apLeft a p).onStapriv (rtwFreeStainfo · p) := by
  unfold apFreeSta bssCapUpdateOnStaLeave RtwAdapter.onCaps
  simp only [staInfo_setInfo_self, setInfo_setInfo]
  rfl

theorem apLeft_staInfo_self : (apLeft a p).staInfo p = (leftState a p).1 :=
  setInfo_self a.stapriv p (leftState a p).1

theorem apFreeSta_links :
    (apFreeSta a p).stapriv.links = a.stapriv.links.free p ((a.staInfo p).aid ≤ 31) := by
  rw [apFreeSta_eq]
  have h := rtwFreeStainfo_links (apLeft a p).stapriv p
  have haid : ((apLeft a p).stapriv.staInfo p).aid = (a.staInfo p).aid := by
    have e := apLeft_staInfo_self a p
    exact (congrArg StaInfo.aid e).trans (leftState_aid a p)
  rw [haid] at h
  exact h

theorem apFreeSta_info_other (h : q ≠ p) : (apFreeSta a p).staInfo q = a.staInfo q := by
  rw [apFreeSta_eq]
  exact (rtwFreeStainfo_info_other (apLeft a p).stapriv p q h).trans
    (setInfo_other a.stapriv p q (leftState a p).1 h)

end

theorem TableRun.single {P : Permits} {h h' : ApHistory} (step : TableStep P h h') : TableRun P h h' :=
  ReflTransGen.single step

theorem apFreeSta_run {P : Permits} (h : ApHistory) (wf : h.Wf) (p : StaId)
    (hashed : h.ap.stapriv.Hashed p) (unlisted : p ∉ h.ap.stapriv.asocList)
    (permit : ∀ s : RtwAdapter, (s.staInfo p).aid = (h.ap.staInfo p).aid → (s.staInfo p).noCaps →
      P.free s p) :
    TableRun P h { h with ap := apFreeSta h.ap p } := by
  have hclear : TableStep P h { h with ap := h.ap.setInfo p ((h.ap.staInfo p).clearState _FW_LINKED) } := by
    refine .edit h p _ ⟨rfl, fun cap => by cases cap <;> rfl⟩ rfl fun hi => ?_
    exact wf.auth.authed p (authed_clearState hi)
  have hmoved : CapMoved ((h.ap.setInfo p ((h.ap.staInfo p).clearState _FW_LINKED)).staInfo p,
      h.ap.mlmepriv) (leftState h.ap p) := by
    rw [staInfo_setInfo_self]
    exact CapMoved.leave _
  have hcaps : TableStep P { h with ap := h.ap.setInfo p ((h.ap.staInfo p).clearState _FW_LINKED) }
      { h with ap := apLeft h.ap p } := by
    have hstep := TableStep.caps (P := P)
      { h with ap := h.ap.setInfo p ((h.ap.staInfo p).clearState _FW_LINKED) } p (leftState h.ap p)
      hashed hmoved
    rw [setInfo_setInfo] at hstep
    exact hstep
  have hself := apLeft_staInfo_self h.ap p
  have hfree : TableStep P { h with ap := apLeft h.ap p } { h with ap := apFreeSta h.ap p } := by
    have hstep := TableStep.free (P := P) { h with ap := apLeft h.ap p } p
      (permit _ (by rw [hself, leftState_aid]) (by rw [hself]; exact capLeave_noCaps _)) hashed unlisted
    rw [apFreeSta_eq]
    exact hstep
  exact ((TableRun.single hclear).tail hcaps).tail hfree

/-- A station of `asoc_list` leaves the cell. -/
theorem asocListLeave_run {P : Permits} (h : ApHistory) (wf : h.Wf) (p : StaId)
    (permit : p ∈ h.ap.stapriv.asocList → ∀ s : RtwAdapter,
      (s.staInfo p).aid = (h.ap.staInfo p).aid → (s.staInfo p).noCaps → P.free s p) :
    TableRun P h { h with ap := asocListLeave h.ap p } := by
  unfold asocListLeave
  split
  next hp =>
    have hdel := TableStep.asocDel (P := P) h p hp
    have hunlisted : p ∉ listDelInit h.ap.stapriv.asocList p := fun hmem =>
      (mem_listDelInit.mp hmem).2 rfl
    have hfree := apFreeSta_run (P := P) { h with ap := h.ap.onStapriv (·.asocListDel p) }
      (wf.step hdel) p (wf.lists.asocHashed p hp) hunlisted (permit hp)
    exact (TableRun.single hdel).trans hfree
  next => exact ReflTransGen.refl

/-! ## The flushes -/

theorem ap_gate {a : RtwAdapter} (hap : inApState a) :
    ¬ (a.mlmeinfoState &&& 0x03 ≠ WIFI_FW_AP_STATE) := not_not.mpr hap

/-- While `rtw_sta_flush` frees the stations that are left: they are still as they were, and so is every
station that is still allocated. -/
structure Flushing (h : ApHistory) (rest : List StaId) (a : RtwAdapter) : Prop where
  wf : ApHistory.Wf { h with ap := a }
  unlisted : a.stapriv.asocList = []
  nodup : rest.Nodup
  hashed : ∀ p ∈ rest, a.stapriv.Hashed p
  listed : ∀ p ∈ rest, p ∈ h.ap.stapriv.asocList
  kept : ∀ p, a.stapriv.Hashed p → h.ap.stapriv.Hashed p ∧ a.staInfo p = h.ap.staInfo p ∧
    (p ∈ h.ap.stapriv.asocList → p ∈ rest)

section
variable {P : Permits} (h : ApHistory) (wf : h.Wf)
include wf

/-- The first loop of `rtw_sta_flush`. -/
theorem flushDel_run :
    TableRun P h { h with ap := h.ap.onStapriv fun sp => h.ap.stapriv.asocList.foldl StaPriv.asocListDel sp } ∧
    Flushing h h.ap.stapriv.asocList
      (h.ap.onStapriv fun sp => h.ap.stapriv.asocList.foldl StaPriv.asocListDel sp) := by
  have hloop := LoopRun.foldl_run (r := TableStep P)
    (fun sp : StaPriv => ({ h with ap := { h.ap with stapriv := sp } } : ApHistory)) StaPriv.asocListDel
    (fun rest sp => sp.asocList = rest ∧ rest.Nodup ∧ sp.staInfo = h.ap.stapriv.staInfo ∧
      sp.staHash = h.ap.stapriv.staHash)
    (by
      rintro p rest sp ⟨hasoc, hnodup, hinfo, hhash⟩
      have hmem : p ∈ sp.asocList := by rw [hasoc]; exact List.mem_cons_self
      have hcons := List.nodup_cons.mp hnodup
      refine ⟨TableRun.single (.asocDel _ p hmem), ?_, hcons.2, hinfo, hhash⟩
      show listDelInit sp.asocList p = rest
      rw [hasoc]
      unfold listDelInit
      rw [List.filter_cons_of_neg (by simp)]
      exact listDelInit_of_not_mem hcons.1)
    h.ap.stapriv.asocList h.ap.stapriv ⟨rfl, wf.lists.asocNodup, rfl, rfl⟩
  obtain ⟨hrun, hasoc, -, hinfo, hhash⟩ := hloop
  have hiff : ∀ p, (h.ap.stapriv.asocList.foldl StaPriv.asocListDel h.ap.stapriv).Hashed p ↔
      h.ap.stapriv.Hashed p := by
    intro p
    unfold StaPriv.Hashed
    rw [hhash]
  refine ⟨hrun, wf.run hrun, hasoc, wf.lists.asocNodup, ?_, fun p hp => hp, ?_⟩
  · intro p hp
    exact (hiff p).mpr (wf.lists.asocHashed p hp)
  · intro p hp
    exact ⟨(hiff p).mp hp, congrFun hinfo p, id⟩

end

theorem Flushing.leave {P : Permits} {h : ApHistory} {p : StaId} {rest : List StaId} {a : RtwAdapter}
    (hf : Flushing h (p :: rest) a)
    (permit : ∀ s : RtwAdapter, (s.staInfo p).aid = (h.ap.staInfo p).aid → (s.staInfo p).noCaps →
      P.free s p) :
    TableRun P { h with ap := a } { h with ap := apFreeSta a p } ∧ Flushing h rest (apFreeSta a p) := by
  have hp : p ∈ p :: rest := List.mem_cons_self
  have hcons := List.nodup_cons.mp hf.nodup
  have hunlisted : p ∉ a.stapriv.asocList := by
    rw [hf.unlisted]
    exact List.not_mem_nil
  have hinfo := (hf.kept p (hf.hashed p hp)).2.1
  have hrun : TableRun P { h with ap := a } { h with ap := apFreeSta a p } := by
    refine apFreeSta_run _ hf.wf p (hf.hashed p hp) hunlisted fun s haid hcaps => ?_
    refine permit s (haid.trans ?_) hcaps
    exact congrArg StaInfo.aid hinfo
  have hlinks := apFreeSta_links a p
  have hhashed : ∀ q, (apFreeSta a p).stapriv.Hashed q ↔ a.stapriv.Hashed q ∧ q ≠ p := by
    intro q
    show (apFreeSta a p).stapriv.links.Hashed q ↔ _
    rw [hlinks]
    exact TableLinks.hashed_free
  refine ⟨hrun, hf.wf.run hrun, ?_, hcons.2, ?_, ?_, ?_⟩
  · have hasoc : (apFreeSta a p).stapriv.asocList = a.stapriv.asocList :=
      congrArg TableLinks.asocList hlinks
    rw [hasoc, hf.unlisted]
  · intro q hq
    have hne : q ≠ p := fun e => hcons.1 (e ▸ hq)
    exact (hhashed q).mpr ⟨hf.hashed q (List.mem_cons_of_mem p hq), hne⟩
  · intro q hq
    exact hf.listed q (List.mem_cons_of_mem p hq)
  · intro q hq
    obtain ⟨hold, hne⟩ := (hhashed q).mp hq
    obtain ⟨hbefore, hsame, hlisted⟩ := hf.kept q hold
    refine ⟨hbefore, (apFreeSta_info_other a p q hne).trans hsame, fun hasoc => ?_⟩
    cases List.mem_cons.mp (hlisted hasoc) with
    | inl e => exact absurd e hne
    | inr hrest => exact hrest

/-- `rtw_sta_flush` in access point mode. -/
theorem rtwStaFlush_run {P : Permits} (h : ApHistory) (wf : h.Wf) (hap : inApState h.ap)
    (permit : ∀ p ∈ h.ap.stapriv.asocList, ∀ s : RtwAdapter,
      (s.staInfo p).aid = (h.ap.staInfo p).aid → (s.staInfo p).noCaps → P.free s p) :
    TableRun P h { h with ap := rtwStaFlush h.ap } ∧ Flushing h [] (rtwStaFlush h.ap) := by
  obtain ⟨hdel, hflushing⟩ := flushDel_run (P := P) h wf
  have hloop := LoopRun.foldl_run (r := TableStep P)
    (fun a : RtwAdapter => ({ h with ap := a } : ApHistory)) apFreeSta (Flushing h)
    (fun p rest a hf => hf.leave (permit p (hf.listed p List.mem_cons_self)))
    h.ap.stapriv.asocList _ hflushing
  have heq : rtwStaFlush h.ap = h.ap.stapriv.asocList.foldl apFreeSta
      (h.ap.onStapriv fun sp => h.ap.stapriv.asocList.foldl StaPriv.asocListDel sp) := by
    unfold rtwStaFlush
    rw [if_neg (ap_gate hap)]
  rw [heq]
  exact ⟨hdel.trans hloop.1, hloop.2⟩

/-- Outside access point mode `rtw_sta_flush` does nothing. -/
theorem rtwStaFlush_idle {a : RtwAdapter} (hap : ¬ inApState a) : rtwStaFlush a = a := by
  unfold rtwStaFlush
  exact if_pos hap

/-! ### `rtw_free_all_stainfo` -/

/-- While `rtw_free_all_stainfo` frees what is left: the allocated stations are as they were and were not
associated. -/
structure Emptying (h : ApHistory) (a : RtwAdapter) : Prop where
  wf : ApHistory.Wf { h with ap := a }
  unlisted : a.stapriv.asocList = []
  kept : ∀ p, a.stapriv.Hashed p → h.ap.stapriv.Hashed p ∧ a.staInfo p = h.ap.staInfo p ∧
    p ∉ h.ap.stapriv.asocList

theorem Flushing.emptying {h : ApHistory} {a : RtwAdapter} (hf : Flushing h [] a) : Emptying h a := by
  refine ⟨hf.wf, hf.unlisted, fun p hp => ?_⟩
  obtain ⟨hbefore, hsame, hlisted⟩ := hf.kept p hp
  exact ⟨hbefore, hsame, fun hasoc => absurd (hlisted hasoc) List.not_mem_nil⟩

theorem Emptying.free {P : Permits} {h : ApHistory} {a : RtwAdapter} (he : Emptying h a) (p : StaId)
    (hp : a.stapriv.Hashed p)
    (permit : ∀ q, h.ap.stapriv.Hashed q → q ∉ h.ap.stapriv.asocList →
      ∀ s : RtwAdapter, s.staInfo q = h.ap.staInfo q → P.free s q) :
    TableRun P { h with ap := a } { h with ap := a.onStapriv (rtwFreeStainfo · p) } ∧
      Emptying h (a.onStapriv (rtwFreeStainfo · p)) ∧
      ∀ index, (rtwFreeStainfo a.stapriv p).staHash index = listDelInit (a.stapriv.staHash index) p := by
  obtain ⟨hbefore, hsame, hasoc⟩ := he.kept p hp
  have hunlisted : p ∉ a.stapriv.asocList := by
    rw [he.unlisted]
    exact List.not_mem_nil
  have hstep : TableStep P { h with ap := a } { h with ap := a.onStapriv (rtwFreeStainfo · p) } :=
    .free _ p (permit p hbefore hasoc a hsame) hp hunlisted
  have hlinks := rtwFreeStainfo_links a.stapriv p
  refine ⟨TableRun.single hstep, ⟨he.wf.step hstep, ?_, ?_⟩, ?_⟩
  · have hlist : (rtwFreeStainfo a.stapriv p).asocList = a.stapriv.asocList :=
      congrArg TableLinks.asocList hlinks
    show (rtwFreeStainfo a.stapriv p).asocList = []
    rw [hlist, he.unlisted]
  · intro q hq
    have hq' : (rtwFreeStainfo a.stapriv p).links.Hashed q := hq
    rw [hlinks] at hq'
    obtain ⟨hold, hne⟩ := TableLinks.hashed_free.mp hq'
    obtain ⟨hb, hs, hn⟩ := he.kept q hold
    exact ⟨hb, (rtwFreeStainfo_info_other a.stapriv p q hne).trans hs, hn⟩
  · intro index
    exact congrFun (congrArg TableLinks.staHash hlinks) index

theorem rtwFreeAllStainfo_run {P : Permits} {h : ApHistory} {a : RtwAdapter} (he : Emptying h a)
    (permit : ∀ q, h.ap.stapriv.Hashed q → q ∉ h.ap.stapriv.asocList →
      ∀ s : RtwAdapter, s.staInfo q = h.ap.staInfo q → P.free s q) :
    TableRun P { h with ap := a } { h with ap := a.onStapriv rtwFreeAllStainfo } := by
  let proj : StaPriv → ApHistory := fun sp => { h with ap := { a with stapriv := sp } }
  let keep := rtwGetBcmcStainfo a.stapriv
  -- The inner loop runs over a bucket as it was when the loop came to it.
  have hbucket : ∀ (index : Fin 32) (sp : StaPriv), Emptying h { a with stapriv := sp } →
      TableRun P (proj sp) (proj ((sp.staHash index).foldl (fun sp psta =>
        if keep = some psta then sp else rtwFreeStainfo sp psta) sp)) ∧
      Emptying h { a with stapriv := (sp.staHash index).foldl (fun sp psta =>
        if keep = some psta then sp else rtwFreeStainfo sp psta) sp } := by
    intro index sp hsp
    have hloop := LoopRun.foldl_run (r := TableStep P) proj
      (fun sp psta => if keep = some psta then sp else rtwFreeStainfo sp psta)
      (fun rest sp => Emptying h { a with stapriv := sp } ∧ rest.Nodup ∧
        ∀ q ∈ rest, q ∈ sp.staHash index)
      (by
        rintro p rest sp ⟨hsp, hnodup, hrest⟩
        have hcons := List.nodup_cons.mp hnodup
        by_cases hkeep : keep = some p
        · rw [if_pos hkeep]
          exact ⟨ReflTransGen.refl, hsp, hcons.2, fun q hq => hrest q (List.mem_cons_of_mem p hq)⟩
        · rw [if_neg hkeep]
          obtain ⟨hrun, hnext, hhash⟩ := hsp.free p ⟨index, hrest p List.mem_cons_self⟩ permit
          refine ⟨hrun, hnext, hcons.2, fun q hq => ?_⟩
          rw [hhash index]
          have hne : q ≠ p := fun e => hcons.1 (e ▸ hq)
          exact mem_listDelInit.mpr ⟨hrest q (List.mem_cons_of_mem p hq), hne⟩)
      (sp.staHash index) sp ⟨hsp, hsp.wf.table.hashNodup index, fun q hq => hq⟩
    exact ⟨hloop.1, hloop.2.1⟩
  have hall := LoopRun.foldl_run (r := TableStep P) proj
    (fun sp index => (sp.staHash index).foldl (fun sp psta =>
      if keep = some psta then sp else rtwFreeStainfo sp psta) sp)
    (fun _ sp => Emptying h { a with stapriv := sp })
    (fun index _ sp hsp => hbucket index sp hsp) (List.finRange 32) a.stapriv he
  unfold RtwAdapter.onStapriv rtwFreeAllStainfo
  by_cases hcount : a.stapriv.asocStaCount = 1
  · simp only [hcount, if_true]
    exact ReflTransGen.refl
  · simp only [hcount, if_false]
    exact hall.1

end Rtl8723au
