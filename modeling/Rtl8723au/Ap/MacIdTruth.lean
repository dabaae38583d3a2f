import Rtl8723au.Ap.OdmStaInfoRuns

/-! The table of the MAC identifiers in runs of the access point: the steps that keep it truthful, and a rejected
reassociation after which it is not. -/
namespace Rtl8723au
open GuardedRuns
set_option autoImplicit false

/-! ## An event -/

theorem mem_gone {sp sp' : StaPriv} (p : StaId) :
    (p ∈ (List.finRange 32).filter fun psta => sp.Hashed psta ∧ ¬sp'.Hashed psta) ↔ sp.Hashed p ∧ ¬sp'.Hashed p := by
  simp

theorem gone_nil {sp sp' : StaPriv} (h : ∀ q, sp.Hashed q → sp'.Hashed q) :
    ((List.finRange 32).filter fun psta => sp.Hashed psta ∧ ¬sp'.Hashed psta) = [] := by
  refine List.filter_eq_nil_iff.mpr fun p _ hp => ?_
  have hboth := of_decide_eq_true hp
  exact hboth.2 (h p hboth.1)

theorem firstFreeAid_small {sp : StaPriv} (h : firstFreeAid sp + 1 < 32) :
    0 < firstFreeAid sp ∧ sp.staAid (StaPriv.aidSlot (firstFreeAid sp)) = none := by
  by_cases hfree : ∃ slot, sp.staAid slot = none
  · have hslot := firstFreeAid_free hfree
    exact ⟨hslot.1, hslot.2.2⟩
  · have hlast : firstFreeAid sp = NUM_STA := by
      unfold firstFreeAid
      cases hfind : (List.finRange 32).find? fun slot => (sp.staAid slot).isNone with
      | none => rfl
      | some slot =>
        have hnone := List.find?_some hfind
        exact absurd ⟨slot, Option.isNone_iff_eq_none.mp hnone⟩ hfree
    unfold NUM_STA at hlast
    omega

namespace OdmAp

variable {s : OdmAp} {event : ApEvent} {h' : ApHistory}

/-- The table holds after the event, and the elements of the other stations are the same. -/
def Kept (s : OdmAp) (event : ApEvent) (h' : ApHistory) : Prop :=
  MacIds h'.ap.stapriv (s.after event h').odm ∧
    SameOthers s.odm (s.after event h').odm fun p =>
      p ∈ freedStations s.h.ap h'.ap event ∨ joinedStation s.h.ap event = some p

theorem kept_of_departs (ids : MacIds s.h.ap.stapriv s.odm) (d : Departs s.h.ap.stapriv h'.ap.stapriv)
    (hfreed : freedStations s.h.ap h'.ap event =
      (List.finRange 32).filter fun p => s.h.ap.stapriv.Hashed p ∧ ¬h'.ap.stapriv.Hashed p)
    (hjoined : joinedStation s.h.ap event = none) : s.Kept event h' := by
  obtain ⟨hids, hothers⟩ := ids.departs d mem_gone
  unfold Kept after
  rw [hjoined, hfreed]
  exact ⟨hids, fun q hq => hothers q fun hmem => hq (.inl hmem)⟩

theorem kept_assocReq (ids : MacIds s.h.ap.stapriv s.odm) (req : AssocReq) (safe : s.Safe (.assocReq req))
    (hap : h'.ap = (onAssocReq s.h.ap req).1) : s.Kept (.assocReq req) h' := by
  cases onAssocReq_outcome s.h.ap req with
  | nothing stapriv joined =>
    refine kept_of_departs ids ?_ rfl joined
    rw [hap, stapriv]
    exact .refl _
  | rejects p info mac aid stapriv joined =>
    refine kept_of_departs ids ?_ rfl joined
    rw [hap, stapriv]
    exact .setInfo _ p info mac (.inr aid)
  | accepts p accepted aid joins macId aid' isAp which joined =>
    rw [← hap] at joins macId aid' isAp which
    obtain ⟨hnotAp, hroom⟩ := safe p accepted
    have hp : s.h.ap.stapriv.Hashed p := rtwGetStainfo_hashed accepted.2.2.1
    have hjoin := @MacIds.join s.h.ap.stapriv h'.ap.stapriv s.odm p ids hp aid macId aid' (isAp.trans hnotAp) ?_
      joins.other joins.hashed joins.asoc
    · unfold Kept after
      have hnone : freedStations s.h.ap h'.ap (.assocReq req) = [] := gone_nil fun q hq => (joins.hashed q).mpr hq
      rw [hnone, show joinedStation s.h.ap (.assocReq req) = some p from joined]
      exact ⟨hjoin.1, fun q hq => hjoin.2 q fun e => hq (.inr (congrArg some e))⟩
    · rcases which with hsame | ⟨hzero, hfirst, hslots⟩
      · exact .inl hsame
      · rcases hroom with hpos | ⟨hmac, hlt⟩
        · exact absurd hzero (Nat.ne_of_gt hpos)
        · obtain ⟨hpos, hfree⟩ := firstFreeAid_small hlt
          rw [← hfirst] at hpos hlt hfree
          exact .inr ⟨hmac, hpos, hlt, hfree, hslots⟩

theorem kept_allocBss (wf : s.h.Wf) (ids : MacIds s.h.ap.stapriv s.odm) (macAddress : MacAddr)
    (safe : s.Safe (.allocBss macAddress)) (hap : h'.ap = allocBssStainfo s.h.ap macAddress) :
    s.Kept (.allocBss macAddress) h' := by
  have hfresh : MacIds h'.ap.stapriv s.odm ∧ ∀ q, s.h.ap.stapriv.Hashed q → h'.ap.stapriv.Hashed q := by
    unfold allocBssStainfo at hap
    dsimp only at hap
    cases hfind : rtwGetStainfo s.h.ap.stapriv (some macAddress) with
    | some p =>
      rw [hfind] at hap
      have hp : s.h.ap.stapriv.Hashed p := rtwGetStainfo_hashed hfind
      have hmac : (s.h.ap.stapriv.staInfo p).macId = 0 := safe p hfind
      have haid : (s.h.ap.stapriv.staInfo p).aid = 0 := by
        cases ids.placed p hp with
        | unjoined mac aid => exact aid
        | bcmc mac aid isAp => exact aid
        | joined lo hi isAp slot aid => omega
      rw [hap]
      refine ⟨ids.fresh (p := p) (fun _ => hmac) ((congrArg StaInfo.macId (setInfo_self _ p _)).trans hmac)
        ((congrArg StaInfo.aid (setInfo_self _ p _)).trans haid) (fun q hq => setInfo_other _ _ _ _ hq) (fun q => ?_)
        rfl fun q hq => ⟨hq, fun he => ?_⟩, fun q hq => hq⟩
      · exact ⟨.inl, fun hq => hq.elim id fun he => he ▸ hp⟩
      · have hlo := ids.asoc q hq
        rw [he] at hlo
        omega
    | none =>
      rw [hfind] at hap
      dsimp only at hap
      cases halloc : rtwAllocStainfo s.h.ap.stapriv macAddress with
      | mk sp found =>
      rw [halloc] at hap
      cases found with
      | none =>
        rw [hap]
        exact ⟨ids, fun q hq => hq⟩
      | some p =>
        obtain ⟨rest, hfree, rfl⟩ := rtwAllocStainfo_some halloc
        have hnew : ¬s.h.ap.stapriv.Hashed p := by
          rintro ⟨index, hmem⟩
          refine wf.table.freeUnhashed p ?_ index hmem
          show p ∈ s.h.ap.stapriv.freeStaQueue
          rw [hfree]
          exact List.mem_cons_self
        have hinfo : (((s.h.ap.stapriv.setFreeStaQueue rest).setInfo p (allocInfo macAddress)).hashAdd
            (wifiMacHash macAddress) p).staInfo p = allocInfo macAddress := setInfo_self _ p _
        have hhash : ∀ q, h'.ap.stapriv.Hashed q ↔ s.h.ap.stapriv.Hashed q ∨ q = p := by
          intro q
          rw [hap]
          exact @TableLinks.hashed_alloc s.h.ap.stapriv.links p q rest (wifiMacHash macAddress)
        refine ⟨ids.fresh (p := p) (fun hp => absurd hp hnew) ?_ ?_ (fun q hq => ?_) hhash ?_ fun q hq => ?_,
          fun q hq => (hhash q).mpr (.inl hq)⟩
        · rw [hap]
          exact (congrArg StaInfo.macId (setInfo_self _ p _)).trans (congrArg StaInfo.macId hinfo)
        · rw [hap]
          exact (congrArg StaInfo.aid (setInfo_self _ p _)).trans (congrArg StaInfo.aid hinfo)
        · rw [hap]
          exact (setInfo_other _ _ _ _ hq).trans (setInfo_other (s.h.ap.stapriv.setFreeStaQueue rest) p q _ hq)
        · rw [hap]
          rfl
        · rw [hap] at hq
          exact ⟨hq, fun he => hnew (he ▸ wf.lists.asocHashed q hq)⟩
  unfold Kept after
  have hnone : freedStations s.h.ap h'.ap (.allocBss macAddress) = [] := gone_nil hfresh.2
  rw [hnone]
  exact ⟨hfresh.1, fun _ _ _ => Iff.rfl⟩

theorem kept_auth (wf : s.h.Wf) (ids : MacIds s.h.ap.stapriv s.odm) (frame : AuthFrame)
    (hap : h'.ap = (onAuth s.h.ap frame).1) : s.Kept (.auth frame) h' := by
  obtain ⟨hids, hothers⟩ := ids.onAuth wf frame h'.ap hap
  exact ⟨hids, fun q hq => hothers q fun hmem => hq (.inl hmem)⟩

theorem kept_of_safe (wf : s.h.Wf) (ids : MacIds s.h.ap.stapriv s.odm) (safe : s.Safe event)
    (hstep : s.h.step event = some h') : s.Kept event h' := by
  cases event with
  | auth frame =>
    have hap : h'.ap = (onAuth s.h.ap frame).1 := by
      cases hstep
      unfold ApHistory.recordAuth
      dsimp only
      split
      · split <;> rfl
      · rfl
    exact kept_auth wf ids frame hap
  | assocReq req =>
    cases hstep
    exact kept_assocReq ids req safe rfl
  | deAuth addr2 addr3 =>
    cases hstep
    exact kept_of_departs ids (.onLeaveFrame s.h.ap addr2 addr3) rfl rfl
  | disassoc addr2 addr3 =>
    cases hstep
    exact kept_of_departs ids (.onLeaveFrame s.h.ap addr2 addr3) rfl rfl
  | expire input =>
    obtain ⟨ap, hap, hx⟩ := Option.map_eq_some_iff.mp hstep
    cases hx
    exact kept_of_departs ids (.expireTimeoutChk s.h.ap input ap hap) rfl rfl
  | staFlush =>
    cases hstep
    exact kept_of_departs ids (.rtwStaFlush s.h.ap) rfl rfl
  | freeAllStainfo =>
    cases hstep
    exact kept_of_departs ids (.flushAllStainfo s.h.ap) rfl rfl
  | delStation mac =>
    cases hstep
    exact kept_of_departs ids (.cfg80211RtwDelStation s.h.ap mac) rfl rfl
  | pwrbit src pwrbit queued =>
    cases hstep
    exact kept_of_departs ids (.processPwrbitData s.h.ap src pwrbit queued) rfl rfl
  | allocBss macAddress =>
    have hap : h'.ap = allocBssStainfo s.h.ap macAddress := by
      cases hstep
      unfold ApHistory.recordAlloc
      split <;> rfl
    exact kept_allocBss wf ids macAddress safe hap
  | setMaxNumSta n =>
    cases hstep
    exact kept_of_departs ids (.relist rfl rfl rfl fun _ hq => hq) rfl rfl

/-! ## Runs -/

/-- The table of stations is well formed and that of the MAC identifiers holds. -/
def Kempt (s : OdmAp) : Prop := s.h.Wf ∧ MacIds s.h.ap.stapriv s.odm

theorem Kempt.step {s s' : OdmAp} (h : s.Kempt) (safe : s.Safe event) (hstep : s.step event = some s') :
    s'.Kempt ∧ s' = s.after event s'.h ∧ s.Kept event s'.h := by
  obtain ⟨h', hh', hx⟩ := Option.map_eq_some_iff.mp hstep
  cases hx
  have hkept := kept_of_safe h.1 h.2 safe hh'
  obtain ⟨h1, hh1, hrun⟩ := s.h.step_run h.1 event
  rw [hh'] at hh1
  cases hh1
  exact ⟨⟨h.1.run hrun, hkept.1⟩, rfl, hkept⟩

theorem Kempt.truthful (h : s.Kempt) : s.Truthful := by
  have hhashed : ∀ p ∈ s.h.ap.stapriv.asocList, s.h.ap.stapriv.Hashed p := h.1.lists.asocHashed
  have hsent : ∀ p ∈ s.h.ap.stapriv.asocList, ∀ m, addRATidMacId (s.h.ap.staInfo p) = some m →
      m = (s.h.ap.staInfo p).macId := by
    intro p hp m hm
    have hlt : (s.h.ap.staInfo p).macId < 32 := (h.2.placed p (hhashed p hp)).macId_lt
    have hand : (s.h.ap.staInfo p).macId &&& 0x1f = (s.h.ap.staInfo p).macId :=
      (Nat.and_two_pow_sub_one_eq_mod _ 5).trans (Nat.mod_eq_of_lt hlt)
    unfold addRATidMacId at hm
    split_ifs at hm
    cases hm
    exact hand
  refine ⟨h.2.inside, fun i p hi => ?_, fun p hp => ?_, fun p hp m hm => ?_⟩
  · have hentry := (h.2.entry i p).mp hi
    exact ⟨hentry.1, hentry.2.1⟩
  · have hlt : (s.h.ap.staInfo p).macId < 32 := (h.2.placed p (hhashed p hp)).macId_lt
    have hlo : 2 ≤ (s.h.ap.staInfo p).macId := h.2.asoc p hp
    have hne : (s.h.ap.staInfo p).macId ≠ 0 := by omega
    exact ⟨hlt, (h.2.entry ⟨_, hlt⟩ p).mpr ⟨hhashed p hp, rfl, hne⟩⟩
  · have hm' := hsent p hp m hm
    have hlo : 2 ≤ (s.h.ap.staInfo p).macId := h.2.asoc p hp
    refine ⟨by omega, by omega, fun q hq hne hq' => hne ?_⟩
    have hsame : (s.h.ap.staInfo q).macId = (s.h.ap.staInfo p).macId := (hsent q hq m hq').symm.trans hm'
    have hpos : (s.h.ap.staInfo q).macId ≠ 0 := by omega
    exact h.2.unique (hhashed q hq) (hhashed p hp) hsame hpos

def startTable : StaPriv := (ApHistory.start namedAp).ap.stapriv

theorem start_kempt (config : RtwAdapter) : (start config).Kempt := by
  have hstart : (start config).h.ap.stapriv = startTable := rfl
  have hhashed : ∀ p : StaId, startTable.Hashed p ↔ p = 0 := by decide
  have hmac : ∀ p : StaId, (startTable.staInfo p).macId = if p = 0 then 1 else 0 := by decide
  have hbcmc : (startTable.staInfo 0).aid = 0 ∧ (startTable.staInfo 0).isAp = false := by decide
  have hodm : ∀ (i : Fin 32) (q : StaId), (start config).odm.entry i = some q ↔ q = 0 ∧ i = 1 := by
    intro i q
    show Function.update (fun _ => none) 1 (some 0) i = some q ↔ _
    by_cases hi : i = 1
    · subst hi
      rw [Function.update_self]
      exact ⟨fun h => ⟨(Option.some.inj h).symm, rfl⟩, fun h => h.1 ▸ rfl⟩
    · rw [Function.update_of_ne hi]
      constructor
      · intro h
        cases h
      · intro h
        exact absurd h.2 hi
  refine ⟨start_wf config, rfl, fun i q => ?_, fun q hq => ?_, fun q hq => absurd hq List.not_mem_nil⟩
  · rw [hodm, hstart, hhashed, hmac]
    constructor
    · rintro ⟨rfl, rfl⟩
      exact ⟨rfl, rfl, by decide⟩
    · rintro ⟨rfl, hval, -⟩
      exact ⟨rfl, Fin.ext hval.symm⟩
  · rw [hstart] at hq ⊢
    have hzero : q = 0 := (hhashed q).mp hq
    subst hzero
    exact .bcmc (hmac 0) hbcmc.1 hbcmc.2

end OdmAp

end Rtl8723au
