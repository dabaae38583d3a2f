import Rtl8723au.Ap.Leaving

/-! The ways into the cell as runs of the station table: authentication and association. -/
namespace Rtl8723au
open Relation
set_option autoImplicit false

/-! ## The exchange -/

theorem authExchange_error_congr {mode t t' status : ℕ} {frame : AuthFrame} {i i' : StaInfo}
    (hseq : i'.authSeq = i.authSeq) (htxt : i'.chgTxt = i.chgTxt)
    (h : authExchange mode t' frame i' = .error status) : authExchange mode t frame i = .error status := by
  have hchallenge : challengeHolds frame i' = challengeHolds frame i := by
    unfold challengeHolds
    rw [htxt]
  unfold authExchange at h ⊢
  rw [hseq, hchallenge] at h
  split_ifs at h ⊢ <;> exact h

/-- A station that only went through the state machine of the exchange. -/
structure Exchanged (mode : ℕ) (frame : AuthFrame) (i i' : StaInfo) : Prop where
  same : i.SameStation i'
  aid : i'.aid = i.aid
  chgTxt : i'.chgTxt = i.chgTxt
  completed : authCompletes mode frame = true → mode = 1 →
    frame.seq = 3 ∧ ∃ ieLen, frame.challenge = some (ieLen, i.chgTxt)
  pending : authCompletes mode frame = false → i'.authed = true → i.authed = true

theorem authExchange_ok {mode t : ℕ} {frame : AuthFrame} {i i' : StaInfo}
    (h : authExchange mode t frame i = .ok i') : Exchanged mode frame i i' := by
  unfold authExchange at h
  split_ifs at h with hseq hopen hone hone' hthree hchallenge
  · -- open system, first frame
    cases h
    have hsame := ((((StaInfo.SameStation.refl i).clearState WIFI_FW_AUTH_NULL).setState WIFI_FW_AUTH_SUCCESS).setExpireTo t).setAuthalg
      frame.algorithm
    refine ⟨hsame, rfl, rfl, fun _ hmode => ?_, fun hpending => ?_⟩
    · omega
    · obtain ⟨halg, hmode⟩ := hopen
      cases hmode with
      | inl h0 => simp [authCompletes, halg, h0] at hpending
      | inr h2 => simp [authCompletes, halg, h2] at hpending
  · -- shared key, first frame
    cases h
    have hsame := ((((StaInfo.SameStation.refl i).clearState WIFI_FW_AUTH_NULL).setState WIFI_FW_AUTH_STATE).setAuthalg
      frame.algorithm).setAuthSeq 2
    refine ⟨hsame, rfl, rfl, fun hdone hmode => ?_, fun _ hi => ?_⟩
    · simp [authCompletes, hone', hmode] at hdone
    · exact authed_clearState (authed_setState (by decide) hi)
  · -- shared key, third frame
    cases h
    have hsame := (((StaInfo.SameStation.refl i).clearState WIFI_FW_AUTH_STATE).setState WIFI_FW_AUTH_SUCCESS).setExpireTo t
    refine ⟨hsame, rfl, rfl, fun _ _ => ⟨hthree, ?_⟩, fun hpending => ?_⟩
    · unfold challengeHolds at hchallenge
      cases hc : frame.challenge with
      | none => simp [hc] at hchallenge
      | some x =>
        simp only [hc, Bool.and_eq_true, beq_iff_eq] at hchallenge
        exact ⟨x.1, by rw [← hchallenge.2]⟩
    · simp [authCompletes, hthree] at hpending

/-! ## `OnAuth` -/

def ApHistory.withSta (h : ApHistory) (sp : StaPriv) : ApHistory :=
  { h with ap := h.ap.setStapriv sp }

/-- The entry `OnAuth` works on: the station it looked up, or one it allocated. -/
structure AuthEntry (h : ApHistory) (sa : MacAddr) (sp : StaPriv) (p : StaId) (allocated : Bool) : Prop where
  hashed : sp.Hashed p
  unlisted : p ∉ sp.asocList
  found : allocated = false → rtwGetStainfo h.ap.stapriv (some sa) = some p ∧
    sp.staInfo p = h.ap.staInfo p
  fresh : allocated = true → rtwGetStainfo h.ap.stapriv (some sa) = none ∧
    (sp.staInfo p).aid = 0 ∧ (sp.staInfo p).noCaps

def ApHistory.forgetIf (h : ApHistory) (p : StaId) (allocated : Bool) : ApHistory :=
  { h with accepted := if allocated then Function.update h.accepted p none else h.accepted }

theorem rtwGetStainfo_hashed {sp : StaPriv} {sa : MacAddr} {p : StaId}
    (h : rtwGetStainfo sp (some sa) = some p) : sp.Hashed p := by
  unfold rtwGetStainfo at h
  exact ⟨_, List.mem_of_find?_eq_some h⟩

theorem allocInfo_noCaps (hwaddr : MacAddr) : (allocInfo hwaddr).noCaps := fun cap => by cases cap <;> rfl

theorem authStation_run {P : Permits} (h : ApHistory) (wf : h.Wf) (sa : MacAddr) (sp : StaPriv) (p : StaId)
    (allocated : Bool) (hsta : authStation h.ap.stapriv sa = (sp, some (p, allocated)))
    (permit : rtwGetStainfo h.ap.stapriv (some sa) = none → P.alloc h.ap sa) :
    TableRun P h ((h.forgetIf p allocated).withSta sp) ∧ AuthEntry h sa sp p allocated := by
  unfold authStation at hsta
  cases hfind : rtwGetStainfo h.ap.stapriv (some sa) with
  | some q =>
    simp only [hfind] at hsta
    cases hsta
    have hashed := rtwGetStainfo_hashed hfind
    by_cases hq : p ∈ h.ap.stapriv.asocList
    · simp only [hq, if_true]
      refine ⟨TableRun.single (.asocDel h p hq), hashed, fun hmem => ?_, fun _ => ⟨hfind, rfl⟩, ?_⟩
      · exact (mem_listDelInit.mp hmem).2 rfl
      · intro hfalse
        cases hfalse
    · simp only [hq, if_false]
      refine ⟨ReflTransGen.refl, hashed, hq, fun _ => ⟨hfind, rfl⟩, ?_⟩
      intro hfalse
      cases hfalse
  | none =>
    simp only [hfind] at hsta
    cases halloc : rtwAllocStainfo h.ap.stapriv sa with
    | mk sp1 found =>
    cases found with
    | none => simp [halloc] at hsta
    | some q =>
      simp only [halloc] at hsta
      cases hsta
      have hstep := TableStep.alloc (P := P) h sa p sp1 (permit hfind) hfind halloc
      have hwf1 := wf.step hstep
      obtain ⟨rest, hfree, hsp1⟩ := rtwAllocStainfo_some halloc
      have hinfo : sp1.staInfo p = allocInfo sa := by
        rw [hsp1]
        exact setInfo_self _ p _
      have hashed : sp1.Hashed p := by
        rw [hsp1]
        show (h.ap.stapriv.links.alloc p rest (wifiMacHash sa)).Hashed p
        exact TableLinks.hashed_alloc.mpr (Or.inr rfl)
      have hasoc : sp1.asocList = h.ap.stapriv.asocList := by rw [hsp1]; rfl
      have hunlisted : p ∉ sp1.asocList := by
        rw [hasoc]
        intro hmem
        obtain ⟨index, hi⟩ := wf.lists.asocHashed p hmem
        exact wf.table.freeUnhashed p (by show p ∈ h.ap.stapriv.freeStaQueue; rw [hfree]; simp) index hi
      have hedit : TableStep P ((h.forgetIf p true).withSta sp1) ((h.forgetIf p true).withSta
          (sp1.setInfo p { sp1.staInfo p with state := WIFI_FW_AUTH_NULL, authSeq := 0 })) := by
        refine .edit _ p _ ⟨rfl, fun cap => by cases cap <;> rfl⟩ rfl fun hi => ?_
        have hnull : (WIFI_FW_AUTH_NULL &&& (WIFI_FW_AUTH_SUCCESS ||| WIFI_FW_ASSOC_SUCCESS) != 0) = true := hi
        exact absurd hnull (by decide)
      refine ⟨(TableRun.single hstep).tail hedit, hashed, hunlisted, ?_, fun _ => ⟨hfind, ?_, ?_⟩⟩
      · intro hfalse
        cases hfalse
      · rw [setInfo_self, hinfo]
        rfl
      · rw [setInfo_self, hinfo]
        exact fun cap => by cases cap <;> rfl

/-- The station is on `auth_list`, and only its time changed. -/
theorem authListed_run {P : Permits} (h : ApHistory) (wf : h.Wf) (p : StaId)
    (hashed : h.ap.stapriv.Hashed p) (unlisted : p ∉ h.ap.stapriv.asocList) :
    TableRun P h (h.withSta (authListed h.ap.stapriv p)) ∧
      ∃ t, (authListed h.ap.stapriv p).staInfo p = (h.ap.staInfo p).setExpireTo t := by
  let sp := if p ∈ h.ap.stapriv.authList then h.ap.stapriv else h.ap.stapriv.authListAdd p
  have hsp : sp.staInfo = h.ap.stapriv.staInfo := by
    show (if p ∈ h.ap.stapriv.authList then h.ap.stapriv else h.ap.stapriv.authListAdd p).staInfo = _
    split <;> rfl
  have hadd : TableRun P h (h.withSta sp) := by
    by_cases hp : p ∈ h.ap.stapriv.authList
    · have e : sp = h.ap.stapriv := if_pos hp
      rw [e]
      exact ReflTransGen.refl
    · have e : sp = h.ap.stapriv.authListAdd p := if_neg hp
      rw [e]
      exact TableRun.single (.authAdd h p hashed hp unlisted)
  have hedit : ∀ info : StaInfo, (∃ t, info = (h.ap.staInfo p).setExpireTo t) →
      TableStep P (h.withSta sp) (h.withSta (sp.setInfo p info)) := by
    rintro info ⟨t, rfl⟩
    have hself : (h.withSta sp).ap.staInfo p = h.ap.staInfo p := congrFun hsp p
    refine .edit _ p _ ⟨?_, fun cap => ?_⟩ ?_ fun hi => wf.auth.authed p hi
    · rw [hself]
      rfl
    · rw [hself]
      cases cap <;> rfl
    · rw [hself]
      rfl
  have hinfo : (∃ t, (if (sp.staInfo p).authSeq = 0 then (sp.staInfo p).setExpireTo sp.authTo
      else sp.staInfo p) = (h.ap.staInfo p).setExpireTo t) := by
    have hself : sp.staInfo p = h.ap.staInfo p := congrFun hsp p
    rw [hself]
    split
    next => exact ⟨_, rfl⟩
    next => exact ⟨(h.ap.staInfo p).expireTo, rfl⟩
  refine ⟨hadd.tail (hedit _ hinfo), ?_⟩
  obtain ⟨t, ht⟩ := hinfo
  exact ⟨t, (setInfo_self sp p _).trans ht⟩

theorem authListed_staHash (sp : StaPriv) (p : StaId) : (authListed sp p).staHash = sp.staHash := by
  show (if p ∈ sp.authList then sp else sp.authListAdd p).staHash = sp.staHash
  split <;> rfl

theorem authListed_asocList (sp : StaPriv) (p : StaId) : (authListed sp p).asocList = sp.asocList := by
  show (if p ∈ sp.authList then sp else sp.authListAdd p).asocList = sp.asocList
  split <;> rfl

theorem recordAuth_fail (h : ApHistory) (frame : AuthFrame) (a : RtwAdapter) (p : StaId)
    (allocated : Bool) (reply : AuthReply) (hstatus : reply.status ≠ _STATS_SUCCESSFUL_) :
    h.recordAuth frame a ⟨some p, allocated, some reply⟩ = { h.forgetIf p allocated with ap := a } := by
  unfold ApHistory.recordAuth
  simp [hstatus, ApHistory.forgetIf]

theorem recordAuth_ok (h : ApHistory) (frame : AuthFrame) (a : RtwAdapter) (p : StaId)
    (allocated : Bool) (reply : AuthReply) (hstatus : reply.status = _STATS_SUCCESSFUL_) :
    h.recordAuth frame a ⟨some p, allocated, some reply⟩ =
      if authCompletes (authMode h.ap.securitypriv) frame then
        ⟨a, Function.update (h.forgetIf p allocated).accepted p
          (some ⟨authMode h.ap.securitypriv, frame, (a.staInfo p).chgTxt⟩)⟩
      else { h.forgetIf p allocated with ap := a } := by
  unfold ApHistory.recordAuth
  simp [hstatus, ApHistory.forgetIf]

theorem authExchange_error {mode t status : ℕ} {frame : AuthFrame} {i : StaInfo}
    (h : authExchange mode t frame i = .error status) : status ≠ _STATS_SUCCESSFUL_ := by
  unfold authExchange at h
  split_ifs at h <;> cases h <;> decide

/-- A frame that reaches the exchange: the last part of `OnAuth`. -/
theorem authExchange_run (h s : ApHistory) (hs : s.Wf) (frame : AuthFrame) (p : StaId)
    (allocated : Bool) (hashed : s.ap.stapriv.Hashed p) (unlisted : p ∉ s.ap.stapriv.asocList)
    (hacc : s.accepted = (h.forgetIf p allocated).accepted) (t : ℕ) {P : Permits}
    (reject : ∀ status, authExchange (authMode h.ap.securitypriv) t frame (s.ap.staInfo p) =
      .error status → P.free s.ap p) :
    (∀ status, authExchange (authMode h.ap.securitypriv) t frame (s.ap.staInfo p) = .error status →
      let x := authFail s.ap frame (some p) allocated status
      TableRun P s (h.recordAuth frame x.1 x.2)) ∧
    (∀ pstat, authExchange (authMode h.ap.securitypriv) t frame (s.ap.staInfo p) = .ok pstat →
      TableRun P s (h.recordAuth frame (s.ap.setInfo p (authReplied frame pstat))
        ⟨some p, allocated, some (issueAuth (pstat.setAuthSeq (frame.seq + 1)) _STATS_SUCCESSFUL_)⟩)) := by
  constructor
  · intro status herror
    show TableRun P s (h.recordAuth frame (s.ap.onStapriv (rtwFreeStainfo · p)) ⟨some p, allocated, _⟩)
    rw [recordAuth_fail _ _ _ _ _ _ (authExchange_error herror)]
    have hstep := TableStep.free (P := P) s p (reject status herror) hashed unlisted
    rw [hacc] at hstep
    exact TableRun.single hstep
  · intro pstat hok
    rw [recordAuth_ok _ _ _ _ _ _ rfl]
    have hx := authExchange_ok hok
    have hsame : (s.ap.staInfo p).SameStation (authReplied frame pstat) :=
      ⟨hx.same.hwaddr, fun cap => by
        have hcap := hx.same.caps cap
        cases cap <;> exact hcap⟩
    split
    next hdone =>
      have hself : ((s.ap.setInfo p (authReplied frame pstat)).staInfo p).chgTxt =
          (s.ap.staInfo p).chgTxt := by
        rw [staInfo_setInfo_self]
        exact hx.chgTxt
      rw [hself, ← hacc]
      exact TableRun.single (.accept s p _ _ hsame hx.aid fun hmode => hx.completed hdone hmode)
    next hpending =>
      have hstep := TableStep.edit (P := P) s p (authReplied frame pstat) hsame hx.aid fun hi =>
        hs.auth.authed p (hx.pending (by simpa using hpending) hi)
      rw [hacc] at hstep
      exact TableRun.single hstep

/-! ## The branches of `OnAuth` -/

theorem authStation_full {sp sp' : StaPriv} {sa : MacAddr} (hsta : authStation sp sa = (sp', none)) : sp' = sp := by
  unfold authStation at hsta
  cases hfind : rtwGetStainfo sp (some sa) with
  | some q => simp [hfind] at hsta
  | none =>
    cases hfree : sp.freeStaQueue with
    | nil => simp [hfind, rtwAllocStainfo, hfree] at hsta; exact hsta.symm
    | cons q rest => simp [hfind, rtwAllocStainfo, hfree] at hsta

section OnAuth
variable {a : RtwAdapter} {frame : AuthFrame} {sp : StaPriv} {p : StaId} {allocated : Bool} (hap : inApState a)
include hap

theorem onAuth_unadmitted {status : ℕ} (hlets : authAdmits a frame = .error status) :
    onAuth a frame = authFail a frame none false status := by
  unfold onAuth
  rw [if_neg (ap_gate hap), hlets]

variable (hlets : authAdmits a frame = .ok ())
include hlets

theorem onAuth_full (hsta : authStation a.stapriv frame.sa = (sp, none)) :
    onAuth a frame = authFail (a.setStapriv sp) frame none false _STATS_UNABLE_HANDLE_STA_ := by
  unfold onAuth
  rw [if_neg (ap_gate hap), hlets]
  simp only [hsta]

variable (hsta : authStation a.stapriv frame.sa = (sp, some (p, allocated)))
include hsta

theorem onAuth_rejected {status : ℕ} (hexchange : authExchange (authMode a.securitypriv) (authListed sp p).assocTo frame
    ((authListed sp p).staInfo p) = .error status) :
    onAuth a frame = authFail (a.setStapriv (authListed sp p)) frame (some p) allocated status := by
  unfold onAuth
  rw [if_neg (ap_gate hap), hlets]
  have h : authExchange (authMode (a.setStapriv (authListed sp p)).securitypriv) (authListed sp p).assocTo frame
      ((authListed sp p).staInfo p) = .error status := hexchange
  simp only [hsta, h]

theorem onAuth_accepted {pstat : StaInfo} (hexchange : authExchange (authMode a.securitypriv) (authListed sp p).assocTo frame
    ((authListed sp p).staInfo p) = .ok pstat) :
    onAuth a frame = (RtwAdapter.setInfo (a.setStapriv (authListed sp p)) p (authReplied frame pstat),
      ⟨some p, allocated, some (issueAuth (pstat.setAuthSeq (frame.seq + 1)) _STATS_SUCCESSFUL_)⟩) := by
  unfold onAuth
  rw [if_neg (ap_gate hap), hlets]
  have h : authExchange (authMode (a.setStapriv (authListed sp p)).securitypriv) (authListed sp p).assocTo frame
      ((authListed sp p).staInfo p) = .ok pstat := hexchange
  simp only [hsta, h]

end OnAuth

/-- `OnAuth` is a run of the table. -/
theorem onAuth_run (h : ApHistory) (wf : h.Wf) (frame : AuthFrame) :
    TableRun (eventPermits h.ap (.auth frame)) h
      (h.recordAuth frame (onAuth h.ap frame).1 (onAuth h.ap frame).2) := by
  by_cases hap : inApState h.ap
  case neg =>
    have e : onAuth h.ap frame = (h.ap, {}) := if_pos hap
    rw [e]
    exact ReflTransGen.refl
  cases hadmit : authAdmits h.ap frame with
  | error status =>
    rw [onAuth_unadmitted hap hadmit]
    exact ReflTransGen.refl
  | ok u =>
    cases hsta : authStation h.ap.stapriv frame.sa with
    | mk sp entry =>
    cases entry with
    | none =>
      obtain rfl := authStation_full hsta
      rw [onAuth_full hap hadmit hsta]
      exact ReflTransGen.refl
    | some x =>
      obtain ⟨p, allocated⟩ := x
      have hentered := authStation_run (P := eventPermits h.ap (.auth frame)) h wf frame.sa sp p
        allocated hsta fun hnone => ⟨rfl, ⟨hap, hadmit, hnone⟩, rfl⟩
      obtain ⟨hrun1, hentry⟩ := hentered
      have hwf1 := wf.run hrun1
      have hlisted := authListed_run (P := eventPermits h.ap (.auth frame)) _ hwf1 p hentry.hashed
        hentry.unlisted
      obtain ⟨hrun2, t, hinfo⟩ := hlisted
      have hwf2 := hwf1.run hrun2
      have hinfo' : (authListed sp p).staInfo p = (sp.staInfo p).setExpireTo t := hinfo
      have hashed : (authListed sp p).Hashed p := by
        have hhash := authListed_staHash sp p
        unfold StaPriv.Hashed
        rw [hhash]
        exact hentry.hashed
      have hunlisted : p ∉ (authListed sp p).asocList := by
        rw [authListed_asocList]
        exact hentry.unlisted
      have hreject : ∀ status, authExchange (authMode h.ap.securitypriv) (authListed sp p).assocTo frame
          ((authListed sp p).staInfo p) = .error status →
          (eventPermits h.ap (.auth frame)).free (h.ap.setStapriv (authListed sp p)) p := by
        intro status herror
        have hself : RtwAdapter.staInfo (h.ap.setStapriv (authListed sp p)) p =
            (sp.staInfo p).setExpireTo t := hinfo'
        cases allocated with
        | true =>
          obtain ⟨-, haid, hcaps⟩ := hentry.fresh rfl
          refine Or.inl ⟨?_, fun cap => ?_⟩
          · rw [hself]
            exact haid
          · rw [hself]
            have hcap := hcaps cap
            cases cap <;> exact hcap
        | false =>
          obtain ⟨hfound, hsame⟩ := hentry.found rfl
          rw [hsame] at hself hinfo'
          rw [hinfo'] at herror
          have hbefore : authExchange (authMode h.ap.securitypriv) h.ap.stapriv.assocTo frame
              (h.ap.staInfo p) = .error status := by
            refine authExchange_error_congr ?_ ?_ herror
            · rfl
            · rfl
          have hdrop : AuthRejects h.ap frame p := ⟨hap, hadmit, hfound, status, hbefore⟩
          refine Or.inr ⟨?_, Or.inl ⟨hdrop, ?_, fun cap => ?_⟩⟩
          · rw [hself]
            rfl
          · rw [hself]
            rfl
          · rw [hself]
            cases cap <;> rfl
      have hlast := authExchange_run h (((h.forgetIf p allocated).withSta sp).withSta (authListed sp p))
        hwf2 frame p allocated hashed hunlisted rfl (authListed sp p).assocTo hreject
      refine (hrun1.trans hrun2).trans ?_
      cases hexchange : authExchange (authMode h.ap.securitypriv) (authListed sp p).assocTo frame
          ((authListed sp p).staInfo p) with
      | error status =>
        rw [onAuth_rejected hap hadmit hsta hexchange]
        exact hlast.1 status hexchange
      | ok pstat =>
        rw [onAuth_accepted hap hadmit hsta hexchange]
        exact hlast.2 pstat hexchange

/-! ## The checks of a request -/

/-- A check keeps what the table needs of a station. -/
structure Unjoined (i i' : StaInfo) : Prop where
  same : i.SameStation i'
  aid : i'.aid = i.aid
  state : i'.state = i.state

namespace Unjoined

theorem refl (i : StaInfo) : Unjoined i i := ⟨⟨rfl, fun _ => rfl⟩, rfl, rfl⟩

theorem trans {i j k : StaInfo} (hij : Unjoined i j) (hjk : Unjoined j k) : Unjoined i k where
  same := ⟨hjk.same.hwaddr.trans hij.same.hwaddr, fun cap =>
    (hjk.same.caps cap).trans (hij.same.caps cap)⟩
  aid := hjk.aid.trans hij.aid
  state := hjk.state.trans hij.state

theorem setFlag (i : StaInfo) (flag : BitVec 32) : Unjoined i (i.setFlag flag) :=
  ⟨⟨rfl, fun cap => by cases cap <;> rfl⟩, rfl, rfl⟩

theorem clearFlag (i : StaInfo) (flag : BitVec 32) : Unjoined i (i.clearFlag flag) :=
  ⟨⟨rfl, fun cap => by cases cap <;> rfl⟩, rfl, rfl⟩

theorem thenCheck {i : StaInfo} {x : Checked} {check : StaInfo → Checked} (hx : Unjoined i x.1)
    (hcheck : ∀ j, Unjoined j (check j).1) : Unjoined i (thenCheck x check).1 := by
  unfold Rtl8723au.thenCheck
  split
  next => exact hx.trans (hcheck x.1)
  next => exact hx

theorem checkElems (req : AssocReq) (i : StaInfo) : Unjoined i (checkElems req i).1 := by
  unfold Rtl8723au.checkElems
  split <;> exact refl i

theorem checkSsid (curSsid : List UInt8) (req : AssocReq) (i : StaInfo) :
    Unjoined i (checkSsid curSsid req i).1 := by
  unfold Rtl8723au.checkSsid
  split <;> exact refl i

theorem checkRates (req : AssocReq) (i : StaInfo) : Unjoined i (checkRates req i).1 := by
  unfold Rtl8723au.checkRates
  split
  next => exact refl i
  next => exact ⟨⟨rfl, fun cap => by cases cap <;> rfl⟩, rfl, rfl⟩

theorem checkWpa (sec : SecurityPriv) (elems : Ieee80211Elems) (i : StaInfo) :
    Unjoined i (checkWpa sec elems i).1.1 := by
  unfold Rtl8723au.checkWpa
  dsimp only
  split <;> exact ⟨⟨rfl, fun cap => by cases cap <;> rfl⟩, rfl, rfl⟩

theorem checkWps (a : RtwAdapter) (elems : Ieee80211Elems) (wpaIe : Bool) (i : StaInfo) :
    Unjoined i (checkWps a elems wpaIe i).1 := by
  have hclear := clearFlag i (WLAN_STA_WPS ||| WLAN_STA_MAYBE_WPS)
  unfold Rtl8723au.checkWps
  dsimp only
  split_ifs
  · exact hclear
  · exact hclear.trans (setFlag _ _)
  · exact hclear
  all_goals exact hclear.trans (setFlag _ _)

theorem checkSecurity (a : RtwAdapter) (elems : Ieee80211Elems) (i : StaInfo) :
    Unjoined i (checkSecurity a elems i).1 :=
  thenCheck (checkWpa a.securitypriv elems i) fun j => checkWps a elems _ j

theorem checkWmm (a : RtwAdapter) (req : AssocReq) (i : StaInfo) : Unjoined i (checkWmm a req i).1 := by
  unfold Rtl8723au.checkWmm
  dsimp only
  split <;> exact ⟨⟨rfl, fun cap => by cases cap <;> rfl⟩, rfl, rfl⟩

theorem checkHt (a : RtwAdapter) (elems : Ieee80211Elems) (i : StaInfo) :
    Unjoined i (checkHt a elems i).1 := by
  unfold Rtl8723au.checkHt
  dsimp only
  split <;> exact ⟨⟨rfl, fun cap => by cases cap <;> rfl⟩, rfl, rfl⟩

theorem updateErp (i : StaInfo) : Unjoined i (updateErp i) := by
  unfold Rtl8723au.updateErp
  dsimp only
  split_ifs
  · exact (clearFlag i _).trans (setFlag _ _)
  · exact (clearFlag i _).trans (clearFlag _ _)
  · exact (setFlag i _).trans (setFlag _ _)
  · exact (setFlag i _).trans (clearFlag _ _)

theorem checkP2p (a : RtwAdapter) (req : AssocReq) (i : StaInfo) : Unjoined i (checkP2p a req i).1 := by
  unfold Rtl8723au.checkP2p
  split <;> exact refl i

theorem assocChecks (a : RtwAdapter) (req : AssocReq) (i : StaInfo) :
    Unjoined i (assocChecks a req i).1 := by
  have hstart : Unjoined i { i with capability := req.capabInfo } :=
    ⟨⟨rfl, fun cap => by cases cap <;> rfl⟩, rfl, rfl⟩
  unfold Rtl8723au.assocChecks
  refine thenCheck (thenCheck (thenCheck (thenCheck (thenCheck (thenCheck (thenCheck
    (hstart.trans (checkElems req _)) ?_) ?_) ?_) ?_) ?_) ?_) ?_
  · exact checkSsid a.curSsid req
  · exact checkRates req
  · exact checkSecurity a _
  · exact checkWmm a req
  · exact checkHt a _
  · exact updateErp
  · exact checkP2p a req

end Unjoined

/-! ## `OnAssocReq` -/

theorem assocGate_authed {i i' : StaInfo} (h : assocGate i = some i') :
    i.authed = true ∧ i.SameStation i' ∧ i'.aid = i.aid := by
  have hor : ∀ bit, bit &&& (WIFI_FW_AUTH_SUCCESS ||| WIFI_FW_ASSOC_SUCCESS) = bit →
      i.inState bit = true → i.authed = true := by
    intro bit hbit hin
    unfold StaInfo.authed StaInfo.inState at *
    rw [bne_iff_ne] at *
    intro hzero
    apply hin
    rw [← hbit, BitVec.and_comm bit, ← BitVec.and_assoc, hzero]
    exact BitVec.zero_and
  unfold assocGate at h
  split_ifs at h with hauth hassoc
  · cases h
    exact ⟨hor _ (by decide) hauth, ⟨rfl, fun cap => by cases cap <;> rfl⟩, rfl⟩
  · cases h
    exact ⟨hor _ (by decide) hassoc, ⟨rfl, fun cap => by cases cap <;> rfl⟩, rfl⟩

theorem onAssocReqFail_run {P : Permits} (h : ApHistory) (p : StaId) (i : StaInfo) (status : ℕ)
    (haccepted : h.accepted p ≠ none) (same : (h.ap.staInfo p).SameStation i)
    (aid : i.aid = (h.ap.staInfo p).aid) (permit : P.forget (h.ap.setInfo p i) p) :
    TableRun P h { h with ap := (onAssocReqFail h.ap p i status).1 } := by
  have hedit := TableStep.edit (P := P) h p i same aid fun _ => haccepted
  have hforget := TableStep.forgetAid (P := P) { h with ap := h.ap.setInfo p i } p permit
  rw [setInfo_setInfo, staInfo_setInfo_self] at hforget
  exact (TableRun.single hedit).tail hforget

/-- The station of an accepted request moves to `asoc_list`. -/
theorem assocListed_run {P : Permits} (h : ApHistory) (p : StaId) (hashed : h.ap.stapriv.Hashed p)
    (haccepted : h.accepted p ≠ none) (aid : 0 < (h.ap.staInfo p).aid) :
    TableRun P h (h.withSta (assocListed h.ap.stapriv p)) := by
  let i := ((h.ap.staInfo p).clearState WIFI_FW_ASSOC_STATE).setState WIFI_FW_ASSOC_SUCCESS
  let sp := (h.ap.stapriv.setInfo p i).authListRemove p
  have hedit := TableStep.edit (P := P) h p i ⟨rfl, fun cap => by cases cap <;> rfl⟩ rfl fun _ => haccepted
  have hself : sp.staInfo p = i := by
    rw [authListRemove_staInfo]
    exact setInfo_self h.ap.stapriv p i
  have hdel : TableRun P h (h.withSta sp) := by
    by_cases hp : p ∈ h.ap.stapriv.authList
    · have e : sp = (h.ap.stapriv.setInfo p i).authListDel p := if_pos hp
      rw [e]
      exact (TableRun.single hedit).tail (.authDel _ p hp)
    · have e : sp = h.ap.stapriv.setInfo p i := if_neg hp
      rw [e]
      exact TableRun.single hedit
  have hlinks : sp.links = h.ap.stapriv.links.authListRemove p := authListRemove_links _ p
  have hhashed : sp.Hashed p := by
    show sp.links.Hashed p
    rw [hlinks]
    exact hashed
  have hunauth : p ∉ sp.authList := by
    have hlist : sp.authList = listDelInit h.ap.stapriv.authList p := congrArg TableLinks.authList hlinks
    rw [hlist]
    exact fun hmem => (mem_listDelInit.mp hmem).2 rfl
  have hresult : assocListed h.ap.stapriv p = if p ∈ sp.asocList then sp
      else (sp.setInfo p ((sp.staInfo p).setExpireTo sp.expireTo)).asocListAdd p := rfl
  rw [hresult]
  by_cases hp : p ∈ sp.asocList
  · rw [if_pos hp]
    exact hdel
  · rw [if_neg hp]
    have htime := TableStep.edit (P := P) (h.withSta sp) p ((sp.staInfo p).setExpireTo sp.expireTo)
      ⟨rfl, fun cap => by cases cap <;> rfl⟩ rfl fun _ => haccepted
    have haid : 0 < ((sp.setInfo p ((sp.staInfo p).setExpireTo sp.expireTo)).staInfo p).aid := by
      rw [setInfo_self, hself]
      exact aid
    have hadd := TableStep.asocAdd (P := P)
      (h.withSta (sp.setInfo p ((sp.staInfo p).setExpireTo sp.expireTo))) p hhashed hp hunauth haccepted
      haid
    exact (hdel.tail htime).tail hadd

theorem assocListed_staHash (sp : StaPriv) (p : StaId) : (assocListed sp p).staHash = sp.staHash := by
  let i := ((sp.staInfo p).clearState WIFI_FW_ASSOC_STATE).setState WIFI_FW_ASSOC_SUCCESS
  let sp' := (sp.setInfo p i).authListRemove p
  have hsp : sp'.staHash = sp.staHash :=
    congrArg TableLinks.staHash (authListRemove_links (sp.setInfo p i) p)
  have hresult : assocListed sp p = if p ∈ sp'.asocList then sp'
      else (sp'.setInfo p ((sp'.staInfo p).setExpireTo sp'.expireTo)).asocListAdd p := rfl
  rw [hresult]
  split
  next => exact hsp
  next => exact hsp

theorem firstFreeAid_pos (sp : StaPriv) : 0 < firstFreeAid sp := by
  unfold firstFreeAid
  split
  next => omega
  next => decide

theorem assocJoined_run {P : Permits} (h : ApHistory) (p : StaId) (hashed : h.ap.stapriv.Hashed p)
    (haccepted : h.accepted p ≠ none) : TableRun P h { h with ap := assocJoined h.ap p } := by
  have hcaps := TableStep.caps (P := P) h p (capJoin (h.ap.staInfo p, h.ap.mlmepriv)) hashed
    (CapMoved.join _)
  have hedit := TableStep.edit (P := P) { h with ap := bssCapUpdateOnStaJoin h.ap p } p
    (staInfoUpdate (bssCapUpdateOnStaJoin h.ap p) ((bssCapUpdateOnStaJoin h.ap p).staInfo p))
    ⟨rfl, fun cap => by cases cap <;> rfl⟩ rfl fun _ => haccepted
  exact (TableRun.single hcaps).tail hedit

theorem assocAccept_run {P : Permits} (h : ApHistory) (p : StaId) (i : StaInfo)
    (hashed : h.ap.stapriv.Hashed p) (haccepted : h.accepted p ≠ none)
    (same : (h.ap.staInfo p).SameStation i) (aid : i.aid = (h.ap.staInfo p).aid)
    (permit : i.aid = 0 → P.forget (h.ap.setInfo p i) p) :
    TableRun P h { h with ap := (assocAccept h.ap p i).1 } := by
  have hedit := TableStep.edit (P := P) h p i same aid fun _ => haccepted
  have hself : (h.ap.setInfo p i).stapriv.staInfo p = i := staInfo_setInfo_self h.ap p i
  have hjoin : ∀ sp : StaPriv, sp.Hashed p → 0 < (sp.staInfo p).aid →
      TableRun P (h.withSta sp) { h with ap := assocJoined (h.ap.setStapriv (assocListed sp p)) p } := by
    intro sp hsp haid
    have hlisted := assocListed_run (P := P) (h.withSta sp) p hsp haccepted haid
    refine hlisted.trans (assocJoined_run _ p ?_ haccepted)
    have hhash : (assocListed sp p).staHash = sp.staHash := assocListed_staHash sp p
    show ∃ index, p ∈ (assocListed sp p).staHash index
    rw [hhash]
    exact hsp
  unfold assocAccept
  cases haid : assocAid (h.ap.setInfo p i).stapriv p with
  | none =>
    have hzero : i.aid = 0 := by
      unfold assocAid at haid
      rw [hself] at haid
      by_contra hne
      rw [if_pos (by omega)] at haid
      cases haid
    exact onAssocReqFail_run h p i _ haccepted same aid (permit hzero)
  | some sp =>
    by_cases hpos : 0 < i.aid
    · have hsp : sp = (h.ap.setInfo p i).stapriv := by
        unfold assocAid at haid
        rw [hself, if_pos hpos] at haid
        exact (Option.some.inj haid).symm
      have hpos' : 0 < ((h.ap.setInfo p i).stapriv.staInfo p).aid := by
        rw [hself]
        exact hpos
      rw [hsp]
      exact (TableRun.single hedit).trans (hjoin _ hashed hpos')
    · have hzero : ((h.ap.setInfo p i).stapriv.staInfo p).aid = 0 := by
        rw [hself]
        omega
      have htake := TableStep.takeAid (P := P) { h with ap := h.ap.setInfo p i } p sp hashed hzero haid
      obtain ⟨-, hsp⟩ := assocAid_some hzero haid
      have hsphash : sp.Hashed p := by
        rw [hsp]
        exact hashed
      have hspaid : 0 < (sp.staInfo p).aid := by
        have hinfo : sp.staInfo p = i.setAid (firstFreeAid (h.ap.setInfo p i).stapriv) := by
          rw [hsp, hself]
          exact setInfo_self _ p _
        rw [hinfo]
        exact firstFreeAid_pos _
      exact ((TableRun.single hedit).tail htake).trans (hjoin sp hsphash hspaid)

theorem assocStation_run (h : ApHistory) (wf : h.Wf) (req : AssocReq) (p : StaId) (hap : inApState h.ap)
    (hfind : rtwGetStainfo h.ap.stapriv (some req.addr2) = some p) :
    TableRun (eventPermits h.ap (.assocReq req)) h { h with ap := (assocStation h.ap req p).1 } := by
  unfold assocStation
  cases hgate : assocGate (h.ap.staInfo p) with
  | none => exact ReflTransGen.refl
  | some pstat =>
    obtain ⟨hauthed, hsame, haid⟩ := assocGate_authed hgate
    have haccepted := wf.auth.authed p hauthed
    have hchecks := Unjoined.assocChecks h.ap req pstat
    have hsame' : (h.ap.staInfo p).SameStation (assocChecks h.ap req pstat).1 :=
      ⟨hchecks.same.hwaddr.trans hsame.hwaddr, fun cap =>
        (hchecks.same.caps cap).trans (hsame.caps cap)⟩
    have haid' := hchecks.aid.trans haid
    have hself := staInfo_setInfo_self h.ap p (assocChecks h.ap req pstat).1
    by_cases hstatus : (assocChecks h.ap req pstat).2 = _STATS_SUCCESSFUL_
    · simp only [hstatus, if_true]
      refine assocAccept_run h p _ (rtwGetStainfo_hashed hfind) haccepted hsame' haid' fun hzero => ?_
      exact Or.inl (by rw [hself]; exact hzero)
    · simp only [hstatus, if_false]
      refine onAssocReqFail_run h p _ _ haccepted hsame' haid' (Or.inr ⟨by rw [hself]; exact haid', ?_⟩)
      exact ⟨hap, hfind, pstat, hgate, hstatus⟩

theorem onAssocReq_unknown {a : RtwAdapter} {req : AssocReq} (hap : inApState a)
    (hlen : ¬ req.pktLen < IEEE80211_3ADDR_LEN + (if req.reassoc then _REASOCREQ_IE_OFFSET_ else _ASOCREQ_IE_OFFSET_))
    (hfind : rtwGetStainfo a.stapriv (some req.addr2) = none) :
    onAssocReq a req = (a, some (.deauth req.addr2 _RSON_CLS2_)) := by
  unfold onAssocReq
  dsimp only
  rw [if_neg (ap_gate hap), if_neg hlen, hfind]

theorem onAssocReq_known {a : RtwAdapter} {req : AssocReq} {p : StaId} (hap : inApState a)
    (hlen : ¬ req.pktLen < IEEE80211_3ADDR_LEN + (if req.reassoc then _REASOCREQ_IE_OFFSET_ else _ASOCREQ_IE_OFFSET_))
    (hfind : rtwGetStainfo a.stapriv (some req.addr2) = some p) : onAssocReq a req = assocStation a req p := by
  unfold onAssocReq
  dsimp only
  rw [if_neg (ap_gate hap), if_neg hlen, hfind]

/-- `OnAssocReq` is a run of the table. -/
theorem onAssocReq_run (h : ApHistory) (wf : h.Wf) (req : AssocReq) :
    TableRun (eventPermits h.ap (.assocReq req)) h { h with ap := (onAssocReq h.ap req).1 } := by
  by_cases hap : inApState h.ap
  case neg =>
    have e : onAssocReq h.ap req = (h.ap, none) := if_pos hap
    rw [e]
  by_cases hlen : req.pktLen < IEEE80211_3ADDR_LEN +
      (if req.reassoc then _REASOCREQ_IE_OFFSET_ else _ASOCREQ_IE_OFFSET_)
  · have e : onAssocReq h.ap req = (h.ap, none) := (if_neg (ap_gate hap)).trans (if_pos hlen)
    rw [e]
  cases hfind : rtwGetStainfo h.ap.stapriv (some req.addr2) with
  | none =>
    rw [onAssocReq_unknown hap hlen hfind]
  | some p =>
    rw [onAssocReq_known hap hlen hfind]
    exact assocStation_run h wf req p hap hfind

end Rtl8723au
