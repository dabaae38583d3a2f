import Rtl8723au.Ap.Departures

/-! Runs in which the table of the MAC identifiers is truthful: a station has the place its first association
identifier gave it, and keeps it until it is freed. -/
namespace Rtl8723au
open GuardedRuns
set_option autoImplicit false

/-! ## One station -/

/-- What is known of an allocated station: it has never joined, it is the broadcast station, or its MAC identifier is
that of the slot of `sta_aid` it was given. -/
inductive MacPlaced (sp : StaPriv) (q : StaId) : Prop
  | unjoined (mac : (sp.staInfo q).macId = 0) (aid : (sp.staInfo q).aid = 0)
  | bcmc (mac : (sp.staInfo q).macId = 1) (aid : (sp.staInfo q).aid = 0) (isAp : (sp.staInfo q).isAp = false)
  | joined (lo : 2 ≤ (sp.staInfo q).macId) (hi : (sp.staInfo q).macId < 32) (isAp : (sp.staInfo q).isAp = false)
      (slot : sp.staAid (StaPriv.aidSlot ((sp.staInfo q).macId - 1)) = some q)
      (aid : (sp.staInfo q).aid = 0 ∨ (sp.staInfo q).aid + 1 = (sp.staInfo q).macId)

namespace MacPlaced

variable {sp sp' : StaPriv} {q : StaId}

theorem macId_lt (h : MacPlaced sp q) : (sp.staInfo q).macId < 32 := by
  cases h <;> omega

theorem notAp (h : MacPlaced sp q) (hmac : (sp.staInfo q).macId ≠ 0) : (sp.staInfo q).isAp = false := by
  cases h with
  | unjoined mac aid => exact absurd mac hmac
  | bcmc mac aid isAp => exact isAp
  | joined lo hi isAp slot aid => exact isAp

theorem of_aid (h : MacPlaced sp q) (haid : 0 < (sp.staInfo q).aid) :
    (sp.staInfo q).aid + 1 = (sp.staInfo q).macId ∧ (sp.staInfo q).macId < 32 ∧ (sp.staInfo q).isAp = false ∧
      sp.staAid (StaPriv.aidSlot ((sp.staInfo q).macId - 1)) = some q := by
  cases h with
  | unjoined mac aid => omega
  | bcmc mac aid isAp => omega
  | joined lo hi isAp slot aid =>
    rcases aid with hzero | hsame
    · omega
    · exact ⟨hsame, hi, isAp, slot⟩

theorem keep (h : MacPlaced sp q) (hmac : SameMac (sp.staInfo q) (sp'.staInfo q))
    (haid : (sp'.staInfo q).aid = (sp.staInfo q).aid ∨ (sp'.staInfo q).aid = 0)
    (hslot : ∀ k, sp.staAid k = some q → sp'.staAid k = some q) : MacPlaced sp' q := by
  have hid := hmac.macId
  have hap := hmac.isAp
  cases h with
  | unjoined mac aid => exact .unjoined (hid.trans mac) (by omega)
  | bcmc mac aid isAp => exact .bcmc (hid.trans mac) (by omega) (hap.trans isAp)
  | joined lo hi isAp slot aid =>
    refine .joined (by omega) (by omega) (hap.trans isAp) ?_ (by omega)
    rw [hid]
    exact hslot _ slot

end MacPlaced

/-! ## The table -/

/-- The elements of the table are the allocated stations that have a MAC identifier. -/
structure MacIds (sp : StaPriv) (odm : OdmStaInfo) : Prop where
  inside : odm.outside = false
  entry : ∀ i q, odm.entry i = some q ↔
    sp.Hashed q ∧ (sp.staInfo q).macId = i.val ∧ (sp.staInfo q).macId ≠ 0
  placed : ∀ q, sp.Hashed q → MacPlaced sp q
  asoc : ∀ q ∈ sp.asocList, 2 ≤ (sp.staInfo q).macId

/-- The elements of the stations but these are the same. -/
def SameOthers (odm odm' : OdmStaInfo) (touched : StaId → Prop) : Prop :=
  ∀ q, ¬touched q → ∀ i, odm'.entry i = some q ↔ odm.entry i = some q

theorem hook_in {odm : OdmStaInfo} {index : ℕ} (h : index < 32) (value : Option StaId) :
    odm.hook index value = { odm with entry := Function.update odm.entry ⟨index, h⟩ value } := dif_pos h

theorem foldl_rtwFreeStainfo (info : StaId → StaInfo) (l : List StaId) (odm : OdmStaInfo)
    (hlt : ∀ p ∈ l, (info p).macId < 32) :
    let odm' := l.foldl (fun odm p => odm.rtwFreeStainfo p (info p)) odm
    odm'.outside = odm.outside ∧ ∀ i q, odm'.entry i = some q ↔
      odm.entry i = some q ∧ ∀ p ∈ l, (info p).isAp = false → (info p).macId ≠ i.val := by
  induction l generalizing odm with
  | nil => exact ⟨rfl, fun i q => ⟨fun h => ⟨h, fun _ hp => absurd hp List.not_mem_nil⟩, fun h => h.1⟩⟩
  | cons p l ih =>
    obtain ⟨hout, hentry⟩ := ih (odm.rtwFreeStainfo p (info p)) fun q hq => hlt q (List.mem_cons_of_mem p hq)
    have hp := hlt p List.mem_cons_self
    have hone : (odm.rtwFreeStainfo p (info p)).outside = odm.outside ∧ ∀ i q,
        (odm.rtwFreeStainfo p (info p)).entry i = some q ↔
          odm.entry i = some q ∧ ((info p).isAp = false → (info p).macId ≠ i.val) := by
      unfold OdmStaInfo.rtwFreeStainfo OdmStaInfo.rtl8723aSetHalODMVar
      by_cases hap : (info p).isAp = true
      · rw [if_pos hap, hap]
        exact ⟨rfl, fun i q => ⟨fun h => ⟨h, fun hf => absurd hf (by decide)⟩, fun h => h.1⟩⟩
      · rw [if_neg hap, hook_in hp]
        refine ⟨rfl, fun i q => ?_⟩
        dsimp only
        by_cases hi : i = ⟨(info p).macId, hp⟩
        · rw [hi, Function.update_self]
          exact ⟨fun h => absurd h (by simp), fun h => absurd rfl (h.2 (Bool.eq_false_iff.mpr hap))⟩
        · rw [Function.update_of_ne hi]
          exact ⟨fun h => ⟨h, fun _ hm => hi (Fin.ext hm.symm)⟩, fun h => h.1⟩
    refine ⟨hout.trans hone.1, fun i q => ?_⟩
    show (l.foldl _ (odm.rtwFreeStainfo p (info p))).entry i = some q ↔ _
    rw [hentry i q, hone.2 i q, List.forall_mem_cons]
    exact and_assoc

namespace MacIds

variable {sp sp' : StaPriv} {odm : OdmStaInfo} {p : StaId}

theorem unique (h : MacIds sp odm) {q : StaId} (hp : sp.Hashed p) (hq : sp.Hashed q)
    (hmac : (sp.staInfo p).macId = (sp.staInfo q).macId) (hne : (sp.staInfo p).macId ≠ 0) : p = q := by
  have hlt := (h.placed p hp).macId_lt
  have hpe := (h.entry ⟨(sp.staInfo p).macId, hlt⟩ p).mpr ⟨hp, rfl, hne⟩
  have hqe := (h.entry ⟨(sp.staInfo p).macId, hlt⟩ q).mpr ⟨hq, hmac.symm, hmac ▸ hne⟩
  exact Option.some.inj (hpe.symm.trans hqe)

theorem departs (h : MacIds sp odm) (d : Departs sp sp') {l : List StaId}
    (hl : ∀ p, p ∈ l ↔ sp.Hashed p ∧ ¬sp'.Hashed p) :
    let odm' := l.foldl (fun odm p => odm.rtwFreeStainfo p (sp'.staInfo p)) odm
    MacIds sp' odm' ∧ SameOthers odm odm' (· ∈ l) := by
  have hmac : ∀ q, (sp'.staInfo q).macId = (sp.staInfo q).macId := fun q => (d.mac q).macId
  have hlt : ∀ p ∈ l, (sp'.staInfo p).macId < 32 := by
    intro p hp
    rw [hmac]
    exact (h.placed p ((hl p).mp hp).1).macId_lt
  obtain ⟨hout, hentry⟩ := foldl_rtwFreeStainfo sp'.staInfo l odm hlt
  have hothers : ∀ q, q ∉ l → ∀ i,
      (l.foldl (fun odm p => odm.rtwFreeStainfo p (sp'.staInfo p)) odm).entry i = some q ↔ odm.entry i = some q := by
    intro q hq i
    rw [hentry i q]
    refine ⟨fun hi => hi.1, fun hi => ⟨hi, fun p hp _ hpi => ?_⟩⟩
    obtain ⟨hqh, hqm, hqne⟩ := (h.entry i q).mp hi
    rw [hmac] at hpi
    have hsame := h.unique ((hl p).mp hp).1 hqh (hpi.trans hqm.symm) (by omega)
    exact hq (hsame ▸ hp)
  refine ⟨⟨hout.trans h.inside, fun i q => ?_, fun q hq => ?_, fun q hq => ?_⟩, hothers⟩
  · rw [hmac]
    by_cases hq : q ∈ l
    · have hgone := (hl q).mp hq
      constructor
      · intro hi
        obtain ⟨hold, hclear⟩ := (hentry i q).mp hi
        obtain ⟨hqh, hqm, hqne⟩ := (h.entry i q).mp hold
        have hnotAp : (sp'.staInfo q).isAp = false := (d.mac q).isAp.trans ((h.placed q hqh).notAp hqne)
        exact absurd ((hmac q).trans hqm) (hclear q hq hnotAp)
      · intro hi
        exact absurd hi.1 hgone.2
    · rw [hothers q hq i, h.entry i q]
      constructor
      · rintro ⟨hqh, hrest⟩
        refine ⟨?_, hrest⟩
        by_contra hnot
        exact hq ((hl q).mpr ⟨hqh, hnot⟩)
      · rintro ⟨hqh, hrest⟩
        exact ⟨d.hashed q hqh, hrest⟩
  · exact (h.placed q (d.hashed q hq)).keep (d.mac q) (d.aid q hq) fun k hk => d.slot q k hq hk
  · rw [hmac]
    exact h.asoc q (d.asoc q hq)

theorem stays (h : MacIds sp odm) (d : Departs sp sp') (hhash : ∀ q, sp.Hashed q → sp'.Hashed q) : MacIds sp' odm :=
  (@departs sp sp' odm h d [] fun p =>
    ⟨fun hp => absurd hp List.not_mem_nil, fun hp => absurd (hhash p hp.1) hp.2⟩).1

theorem fresh (h : MacIds sp odm) (hp : sp.Hashed p → (sp.staInfo p).macId = 0)
    (hmac : (sp'.staInfo p).macId = 0) (haid : (sp'.staInfo p).aid = 0)
    (hother : ∀ q, q ≠ p → sp'.staInfo q = sp.staInfo q) (hhash : ∀ q, sp'.Hashed q ↔ sp.Hashed q ∨ q = p)
    (hslot : sp'.staAid = sp.staAid) (hasoc : ∀ q ∈ sp'.asocList, q ∈ sp.asocList ∧ q ≠ p) : MacIds sp' odm where
  inside := h.inside
  entry i q := by
    rw [h.entry i q, hhash]
    by_cases hq : q = p
    · subst hq
      rw [hmac]
      exact ⟨fun hi => absurd (hp hi.1) hi.2.2, fun hi => absurd rfl hi.2.2⟩
    · rw [hother q hq]
      exact ⟨fun hi => ⟨.inl hi.1, hi.2⟩, fun hi => ⟨hi.1.resolve_right hq, hi.2⟩⟩
  placed q hq := by
    by_cases he : q = p
    · subst he
      exact .unjoined hmac haid
    · have hsame := hother q he
      refine (h.placed q (((hhash q).mp hq).resolve_right he)).keep ?_ (.inl (by rw [hsame])) fun k hk => ?_
      · rw [hsame]
        exact .refl _
      · rwa [hslot]
  asoc q hq := by
    rw [hother q (hasoc q hq).2]
    exact h.asoc q (hasoc q hq).1

/-- A station joins: it has kept its association identifier, or gets the one of a free slot. -/
theorem join (h : MacIds sp odm) (hp : sp.Hashed p) {aid : ℕ}
    (hmac : (sp'.staInfo p).macId = aid + 1) (haid : (sp'.staInfo p).aid = aid)
    (hisAp : (sp'.staInfo p).isAp = false)
    (hwhich : (aid = (sp.staInfo p).aid ∧ 0 < aid ∧ sp'.staAid = sp.staAid) ∨
      ((sp.staInfo p).macId = 0 ∧ 0 < aid ∧ aid + 1 < 32 ∧ sp.staAid (StaPriv.aidSlot aid) = none ∧
        sp'.staAid = Function.update sp.staAid (StaPriv.aidSlot aid) (some p)))
    (hother : ∀ q, q ≠ p → sp'.staInfo q = sp.staInfo q) (hhash : ∀ q, sp'.Hashed q ↔ sp.Hashed q)
    (hasoc : ∀ q ∈ sp'.asocList, q ∈ sp.asocList ∨ q = p) :
    let odm' := odm.rtl8723aSetHalODMVar p (sp'.staInfo p) true
    MacIds sp' odm' ∧ SameOthers odm odm' (p = ·) := by
  have hlt : aid + 1 < 32 := by
    rcases hwhich with ⟨hsame, hpos, -⟩ | ⟨-, -, hlt, -⟩
    · have hplace := (h.placed p hp).of_aid (by omega)
      omega
    · exact hlt
  -- no other station has the place
  have hfree : ∀ q, sp.Hashed q → q ≠ p → (sp.staInfo q).macId ≠ aid + 1 := by
    intro q hq hne hq1
    rcases hwhich with ⟨hsame, hpos, -⟩ | ⟨-, hpos, -, hnone, -⟩
    · have hplace := (h.placed p hp).of_aid (by omega)
      exact hne (h.unique hq hp (by omega) (by omega))
    · cases h.placed q hq with
      | unjoined mac aid => omega
      | bcmc mac aid isAp => omega
      | joined lo hi isAp slot aid =>
        rw [hq1, Nat.add_sub_cancel, hnone] at slot
        cases slot
  -- the station itself had it or had none
  have hself : ∀ m, (sp.staInfo p).macId = m → m ≠ 0 → m = aid + 1 := by
    intro m hm hne
    rcases hwhich with ⟨hsame, hpos, -⟩ | ⟨hzero, -⟩
    · have hplace := (h.placed p hp).of_aid (by omega)
      omega
    · omega
  have hslot : ∀ q, q ≠ p → ∀ k, sp.staAid k = some q → sp'.staAid k = some q := by
    intro q hne k hk
    rcases hwhich with ⟨-, -, hslot⟩ | ⟨-, -, -, hnone, hslot⟩
    · rwa [hslot]
    · rw [hslot, Function.update_of_ne]
      · exact hk
      · intro he
        rw [he, hnone] at hk
        cases hk
  have hset : odm.rtl8723aSetHalODMVar p (sp'.staInfo p) true =
      { odm with entry := Function.update odm.entry ⟨aid + 1, hlt⟩ (some p) } := by
    unfold OdmStaInfo.rtl8723aSetHalODMVar
    rw [hmac]
    exact hook_in hlt _
  dsimp only
  rw [hset]
  refine ⟨⟨h.inside, fun i q => ?_, fun q hq => ?_, fun q hq => ?_⟩, fun q hq i => ?_⟩
  · rw [hhash]
    dsimp only
    by_cases hi : i = ⟨aid + 1, hlt⟩
    · subst hi
      rw [Function.update_self]
      constructor
      · intro he
        cases he
        exact ⟨hp, hmac, by omega⟩
      · rintro ⟨hqh, hqm, -⟩
        by_cases hne : q = p
        · rw [hne]
        · rw [hother q hne] at hqm
          exact absurd hqm (hfree q hqh hne)
    · have hval : i.val ≠ aid + 1 := fun hv => hi (Fin.ext hv)
      rw [Function.update_of_ne hi, h.entry i q]
      by_cases hne : q = p
      · subst hne
        constructor
        · rintro ⟨-, hqm, hq0⟩
          exact absurd (hself _ hqm (by omega)) hval
        · rintro ⟨-, hqm, -⟩
          omega
      · rw [hother q hne]
  · by_cases hne : q = p
    · subst hne
      refine .joined (by omega) (by omega) hisAp ?_ (.inr (by omega))
      rw [hmac, Nat.add_sub_cancel]
      rcases hwhich with ⟨hsame, hpos, hslots⟩ | ⟨-, -, -, -, hslots⟩
      · have hplace := (h.placed q hp).of_aid (by omega)
        have hold := hplace.2.2.2
        rw [← hplace.1, Nat.add_sub_cancel, ← hsame] at hold
        rwa [hslots]
      · rw [hslots, Function.update_self]
    · have hsame := hother q hne
      refine (h.placed q ((hhash q).mp hq)).keep ?_ (.inl (by rw [hsame])) (hslot q hne)
      rw [hsame]
      exact .refl _
  · by_cases hne : q = p
    · subst hne
      omega
    · rw [hother q hne]
      exact h.asoc q ((hasoc q hq).resolve_right hne)
  · dsimp only
    by_cases hi : i = ⟨aid + 1, hlt⟩
    · subst hi
      rw [Function.update_self]
      constructor
      · intro he
        exact absurd (Option.some.inj he) hq
      · intro he
        obtain ⟨hqh, hqm, -⟩ := (h.entry _ q).mp he
        exact absurd hqm (hfree q hqh fun e => hq e.symm)
    · rw [Function.update_of_ne hi]

end MacIds

/-! ## Authentication -/

theorem authExchange_sameMac {mode t : ℕ} {frame : AuthFrame} {i i' : StaInfo}
    (h : authExchange mode t frame i = .ok i') : SameMac i i' ∧ i'.aid = i.aid := by
  have hmove : ∀ off on : BitVec 32, ~~~off &&& apBit = apBit → on &&& apBit = 0 →
      SameMac i ((i.clearState off).setState on) := fun off on hoff hon =>
    (SameMac.clearState i hoff).trans (.setState _ hon)
  have hopen := hmove WIFI_FW_AUTH_NULL WIFI_FW_AUTH_SUCCESS (by decide) (by decide)
  have hfirst := hmove WIFI_FW_AUTH_NULL WIFI_FW_AUTH_STATE (by decide) (by decide)
  have hthird := hmove WIFI_FW_AUTH_STATE WIFI_FW_AUTH_SUCCESS (by decide) (by decide)
  unfold authExchange at h
  split_ifs at h
  · cases h
    exact ⟨hopen.trans ⟨rfl, rfl⟩, rfl⟩
  · cases h
    exact ⟨hfirst.trans ⟨rfl, rfl⟩, rfl⟩
  · cases h
    exact ⟨hthird.trans ⟨rfl, rfl⟩, rfl⟩

/-- What `OnAuth` does to the table of stations. -/
inductive AuthOutcomeOf (a : RtwAdapter) (frame : AuthFrame) : Prop
  | nothing (stapriv : (onAuth a frame).1.stapriv = a.stapriv)
      (freed : authFreed (onAuth a frame).2 = [])
  | rejects (sp : StaPriv) (p : StaId) (allocated : Bool)
      (entry : authStation a.stapriv frame.sa = (sp, some (p, allocated)))
      (stapriv : (onAuth a frame).1.stapriv = rtwFreeStainfo (authListed sp p) p)
      (freed : authFreed (onAuth a frame).2 = [p])
  | accepts (sp : StaPriv) (p : StaId) (allocated : Bool) (info : StaInfo)
      (entry : authStation a.stapriv frame.sa = (sp, some (p, allocated)))
      (mac : SameMac ((authListed sp p).staInfo p) info) (aid : info.aid = ((authListed sp p).staInfo p).aid)
      (stapriv : (onAuth a frame).1.stapriv = (authListed sp p).setInfo p info)
      (freed : authFreed (onAuth a frame).2 = [])

theorem onAuth_outcome (a : RtwAdapter) (frame : AuthFrame) : AuthOutcomeOf a frame := by
  by_cases hap : inApState a
  case neg =>
    have e : onAuth a frame = (a, {}) := if_pos hap
    exact .nothing (by rw [e]) (by rw [e]; rfl)
  cases hadmit : authAdmits a frame with
  | error status =>
    have e := onAuth_unadmitted hap hadmit
    exact .nothing (by rw [e]; rfl) (by rw [e]; rfl)
  | ok u =>
    cases hsta : authStation a.stapriv frame.sa with
    | mk sp entry =>
    cases entry with
    | none =>
      have e := onAuth_full hap hadmit hsta
      exact .nothing (by rw [e]; exact authStation_full hsta) (by rw [e]; rfl)
    | some x =>
      obtain ⟨p, allocated⟩ := x
      cases hexchange : authExchange (authMode a.securitypriv) (authListed sp p).assocTo frame
          ((authListed sp p).staInfo p) with
      | error status =>
        have e := onAuth_rejected hap hadmit hsta hexchange
        refine .rejects sp p allocated hsta (by rw [e]; rfl) ?_
        rw [e]
        exact if_neg (authExchange_error hexchange)
      | ok pstat =>
        have e := onAuth_accepted hap hadmit hsta hexchange
        obtain ⟨hmac, haid⟩ := authExchange_sameMac hexchange
        refine .accepts sp p allocated (authReplied frame pstat) hsta (hmac.trans ⟨rfl, rfl⟩) haid (by rw [e]; rfl)
          ?_
        rw [e]
        show (if _STATS_SUCCESSFUL_ = _STATS_SUCCESSFUL_ then [] else [p]) = []
        exact if_pos rfl

/-- The station is on `auth_list`. -/
theorem authListed_departs (sp : StaPriv) (p : StaId) : Departs sp (authListed sp p) := by
  have htime : ∀ sp' : StaPriv, Departs sp' (sp'.setInfo p (if (sp'.staInfo p).authSeq = 0 then
      (sp'.staInfo p).setExpireTo sp'.authTo else sp'.staInfo p)) := by
    intro sp'
    split
    · exact .setInfo sp' p _ ⟨rfl, rfl⟩ (.inl rfl)
    · exact .setInfo sp' p _ (.refl _) (.inl rfl)
  by_cases hp : p ∈ sp.authList
  · have e : authListed sp p = sp.setInfo p (if (sp.staInfo p).authSeq = 0 then
        (sp.staInfo p).setExpireTo sp.authTo else sp.staInfo p) := by
      unfold authListed
      rw [if_pos hp]
    rw [e]
    exact htime sp
  · have e : authListed sp p = (sp.authListAdd p).setInfo p (if ((sp.authListAdd p).staInfo p).authSeq = 0 then
        ((sp.authListAdd p).staInfo p).setExpireTo (sp.authListAdd p).authTo else (sp.authListAdd p).staInfo p) := by
      unfold authListed
      rw [if_neg hp]
    have hadd : Departs sp (sp.authListAdd p) := .relist rfl rfl rfl fun _ h => h
    rw [e]
    exact hadd.trans (htime _)

/-- The entry of an authentication: one that is there, or one that is allocated. -/
theorem MacIds.authStation {h : ApHistory} (wf : h.Wf) {odm : OdmStaInfo} (ids : MacIds h.ap.stapriv odm)
    {sa : MacAddr} {sp : StaPriv} {p : StaId} {allocated : Bool}
    (hsta : authStation h.ap.stapriv sa = (sp, some (p, allocated))) : MacIds sp odm ∧ sp.Hashed p := by
  have hentry := (authStation_run (P := {}) h wf sa sp p allocated hsta fun _ => trivial).2
  refine ⟨?_, hentry.hashed⟩
  unfold Rtl8723au.authStation at hsta
  cases hfind : rtwGetStainfo h.ap.stapriv (some sa) with
  | some q =>
    simp only [hfind] at hsta
    cases hsta
    split
    · exact ids.stays (.asocListDel _ p) fun _ hq => hq
    · exact ids
  | none =>
    simp only [hfind] at hsta
    cases halloc : rtwAllocStainfo h.ap.stapriv sa with
    | mk sp1 found =>
    cases found with
    | none => simp [halloc] at hsta
    | some q =>
      simp only [halloc] at hsta
      cases hsta
      obtain ⟨rest, hfree, rfl⟩ := rtwAllocStainfo_some halloc
      have hnew : ¬h.ap.stapriv.Hashed p := by
        rintro ⟨index, hmem⟩
        refine wf.table.freeUnhashed p ?_ index hmem
        show p ∈ h.ap.stapriv.freeStaQueue
        rw [hfree]
        exact List.mem_cons_self
      refine ids.fresh (fun hp => absurd hp hnew) (by rw [setInfo_self]; exact congrArg StaInfo.macId (setInfo_self _ p _))
        (by rw [setInfo_self]; exact congrArg StaInfo.aid (setInfo_self _ p _)) (fun q hq => ?_) (fun q => ?_) rfl
        fun q hq => ⟨hq, fun he => hnew (he ▸ wf.lists.asocHashed q hq)⟩
      · rw [setInfo_other _ _ _ _ hq]
        exact setInfo_other (h.ap.stapriv.setFreeStaQueue rest) p q _ hq
      · exact @TableLinks.hashed_alloc h.ap.stapriv.links p q rest (wifiMacHash sa)

theorem authListed_hashed (sp : StaPriv) (p q : StaId) : (authListed sp p).Hashed q ↔ sp.Hashed q := by
  unfold StaPriv.Hashed
  rw [authListed_staHash]

theorem MacIds.onAuth {h : ApHistory} (wf : h.Wf) {odm : OdmStaInfo} (ids : MacIds h.ap.stapriv odm)
    (frame : AuthFrame) (a' : RtwAdapter) (ha' : a' = (onAuth h.ap frame).1) :
    let odm' := (authFreed (Rtl8723au.onAuth h.ap frame).2).foldl
      (fun odm p => odm.rtwFreeStainfo p (a'.staInfo p)) odm
    MacIds a'.stapriv odm' ∧ SameOthers odm odm' (· ∈ authFreed (Rtl8723au.onAuth h.ap frame).2) := by
  have hnone : ∀ odm : OdmStaInfo, SameOthers odm odm (· ∈ ([] : List StaId)) := fun _ _ _ _ => Iff.rfl
  cases onAuth_outcome h.ap frame with
  | nothing stapriv freed =>
    rw [freed, ha', stapriv]
    exact ⟨ids, hnone _⟩
  | rejects sp p allocated entry stapriv freed =>
    obtain ⟨hsp, hp⟩ := ids.authStation wf entry
    have hlisted := hsp.stays (authListed_departs sp p) fun q hq => (authListed_hashed sp p q).mpr hq
    have hfreed := hlisted.departs (.free (authListed sp p) p) (l := [p]) fun q => by
      rw [Departs.freed_hashed, List.mem_singleton]
      constructor
      · rintro rfl
        exact ⟨(authListed_hashed sp q q).mpr hp, fun h => h.2 rfl⟩
      · rintro ⟨hq, hnot⟩
        by_contra hne
        exact hnot ⟨hq, hne⟩
    rw [freed, ha']
    have hinfo : (Rtl8723au.onAuth h.ap frame).1.staInfo = (rtwFreeStainfo (authListed sp p) p).staInfo :=
      congrArg StaPriv.staInfo stapriv
    rw [hinfo, stapriv]
    exact hfreed
  | accepts sp p allocated info entry mac aid stapriv freed =>
    obtain ⟨hsp, hp⟩ := ids.authStation wf entry
    have hlisted := hsp.stays (authListed_departs sp p) fun q hq => (authListed_hashed sp p q).mpr hq
    rw [freed, ha', stapriv]
    exact ⟨hlisted.stays (.setInfo _ p info mac (.inl aid)) fun q hq => hq, hnone _⟩

/-! ## Association -/

/-- Only the station is changed, and may be put on `asoc_list`. -/
structure Joins (sp sp' : StaPriv) (p : StaId) : Prop where
  other : ∀ q, q ≠ p → sp'.staInfo q = sp.staInfo q
  staHash : sp'.staHash = sp.staHash
  asoc : ∀ q ∈ sp'.asocList, q ∈ sp.asocList ∨ q = p

namespace Joins

variable {sp sp' sp'' : StaPriv} {p : StaId}

theorem trans (h : Joins sp sp' p) (h' : Joins sp' sp'' p) : Joins sp sp'' p where
  other q hq := (h'.other q hq).trans (h.other q hq)
  staHash := h'.staHash.trans h.staHash
  asoc q hq := (h'.asoc q hq).elim (h.asoc q) .inr

theorem setInfo (sp : StaPriv) (p : StaId) (info : StaInfo) : Joins sp (sp.setInfo p info) p :=
  ⟨fun q hq => setInfo_other sp p q info hq, rfl, fun _ h => .inl h⟩

theorem hashed (h : Joins sp sp' p) (q : StaId) : sp'.Hashed q ↔ sp.Hashed q := by
  unfold StaPriv.Hashed
  rw [h.staHash]

end Joins

/-- The station of an accepted request is on `asoc_list`. -/
theorem assocListed_joins (sp : StaPriv) (p : StaId) : Joins sp (assocListed sp p) p ∧
    SameMac (sp.staInfo p) ((assocListed sp p).staInfo p) ∧ ((assocListed sp p).staInfo p).aid = (sp.staInfo p).aid ∧
      (assocListed sp p).staAid = sp.staAid := by
  let i := ((sp.staInfo p).clearState WIFI_FW_ASSOC_STATE).setState WIFI_FW_ASSOC_SUCCESS
  let sp1 := (sp.setInfo p i).authListRemove p
  have hmac : SameMac (sp.staInfo p) i := (SameMac.clearState _ (by decide)).trans (.setState _ (by decide))
  have hinfo : sp1.staInfo = (sp.setInfo p i).staInfo := authListRemove_staInfo _ p
  have hself : sp1.staInfo p = i := by
    rw [hinfo]
    exact setInfo_self sp p i
  have hlinks := authListRemove_links (sp.setInfo p i) p
  have hjoins : Joins sp sp1 p := by
    refine (Joins.setInfo sp p i).trans ⟨fun q _ => congrFun hinfo q, congrArg TableLinks.staHash hlinks, fun q hq => ?_⟩
    have hlist : sp1.asocList = sp.asocList := congrArg TableLinks.asocList hlinks
    rw [hlist] at hq
    exact .inl hq
  have hslot : sp1.staAid = sp.staAid := authListRemove_staAid _ p
  have hresult : assocListed sp p = if p ∈ sp1.asocList then sp1
      else (sp1.setInfo p ((sp1.staInfo p).setExpireTo sp1.expireTo)).asocListAdd p := rfl
  rw [hresult]
  split
  · exact ⟨hjoins, by rw [hself]; exact hmac, by rw [hself]; rfl, hslot⟩
  · refine ⟨hjoins.trans ((Joins.setInfo sp1 p _).trans ⟨fun _ _ => rfl, rfl, fun q hq => ?_⟩), ?_, ?_, hslot⟩
    · exact (List.mem_append.mp hq).imp id List.mem_singleton.mp
    · show SameMac _ ((sp1.setInfo p ((sp1.staInfo p).setExpireTo sp1.expireTo)).staInfo p)
      rw [setInfo_self, hself]
      exact hmac.trans ⟨rfl, rfl⟩
    · show ((sp1.setInfo p ((sp1.staInfo p).setExpireTo sp1.expireTo)).staInfo p).aid = _
      rw [setInfo_self, hself]
      rfl

/-- `sta_info_update` gives the station its MAC identifier. -/
theorem assocJoined_joins (a : RtwAdapter) (p : StaId) : Joins a.stapriv (assocJoined a p).stapriv p ∧
    ((assocJoined a p).staInfo p).macId = (a.staInfo p).aid + 1 ∧
      ((assocJoined a p).staInfo p).aid = (a.staInfo p).aid ∧
      ((assocJoined a p).staInfo p).isAp = (a.staInfo p).isAp ∧
      (assocJoined a p).stapriv.staAid = a.stapriv.staAid := by
  let x := capJoin (a.staInfo p, a.mlmepriv)
  let b := bssCapUpdateOnStaJoin a p
  have hb : b.staInfo p = x.1 := staInfo_setInfo_self a p x.1
  have hself : (assocJoined a p).staInfo p = staInfoUpdate b x.1 := by
    have h := staInfo_setInfo_self b p (staInfoUpdate b (b.staInfo p))
    rw [hb] at h
    exact (congrArg (fun info => (b.setInfo p (staInfoUpdate b info)).staInfo p) hb).trans h
  have haid : x.1.aid = (a.staInfo p).aid := (CapMoved.join _).aid
  have hlinked : ∀ info : StaInfo, (info.setState _FW_LINKED).isAp = info.isAp := fun info =>
    (SameMac.setState info (by decide)).isAp
  refine ⟨?_, ?_, ?_, ?_, rfl⟩
  · exact (Joins.setInfo a.stapriv p x.1).trans (Joins.setInfo b.stapriv p _)
  · rw [hself]
    exact congrArg (· + 1) haid
  · rw [hself]
    exact haid
  · rw [hself]
    exact (hlinked _).trans (SameMac.capJoin (a.staInfo p, a.mlmepriv)).isAp

namespace SameMac

theorem thenCheck {i : StaInfo} {x : Checked} {check : StaInfo → Checked} (hx : SameMac i x.1)
    (hcheck : ∀ j, SameMac j (check j).1) : SameMac i (thenCheck x check).1 := by
  unfold Rtl8723au.thenCheck
  split
  · exact hx.trans (hcheck x.1)
  · exact hx

theorem assocChecks (a : RtwAdapter) (req : AssocReq) (i : StaInfo) : SameMac i (assocChecks a req i).1 := by
  have hflag : ∀ (j : StaInfo) (flag : BitVec 32), SameMac j (j.setFlag flag) ∧ SameMac j (j.clearFlag flag) :=
    fun j flag => ⟨⟨rfl, rfl⟩, ⟨rfl, rfl⟩⟩
  unfold Rtl8723au.assocChecks
  refine thenCheck (thenCheck (thenCheck (thenCheck (thenCheck (thenCheck (thenCheck ?_ ?_) ?_) ?_) ?_) ?_) ?_) ?_
  · unfold checkElems
    split <;> exact ⟨rfl, rfl⟩
  · intro j
    unfold checkSsid
    split <;> exact refl j
  · intro j
    unfold checkRates
    split <;> exact ⟨rfl, rfl⟩
  · intro j
    refine thenCheck ?_ fun k => ?_
    · unfold checkWpa
      dsimp only
      split <;> exact ⟨rfl, rfl⟩
    · unfold checkWps
      dsimp only
      split_ifs <;> exact ⟨rfl, rfl⟩
  · intro j
    unfold checkWmm
    dsimp only
    split <;> exact ⟨rfl, rfl⟩
  · intro j
    unfold checkHt
    dsimp only
    split <;> exact ⟨rfl, rfl⟩
  · intro j
    show SameMac j (updateErp j)
    unfold updateErp
    dsimp only
    split_ifs
    · exact (hflag j _).2.trans (hflag _ _).1
    · exact (hflag j _).2.trans (hflag _ _).2
    · exact (hflag j _).1.trans (hflag _ _).1
    · exact (hflag j _).1.trans (hflag _ _).2
  · intro j
    unfold checkP2p
    split <;> exact refl j

theorem assocGate {i i' : StaInfo} (h : assocGate i = some i') : SameMac i i' := by
  have hassoc : WIFI_FW_ASSOC_STATE &&& apBit = 0 := by decide
  unfold Rtl8723au.assocGate at h
  split_ifs at h
  · cases h
    exact (clearState i (by decide)).trans (setState _ hassoc)
  · cases h
    exact (clearState i (by decide)).trans (setState _ hassoc)

end SameMac

theorem assocGranted_success (p : StaId) (aid : ℕ) :
    assocGranted (some (.asocrsp p _STATS_SUCCESSFUL_ aid)) = some p := by
  simp [assocGranted]

theorem assocGranted_reject (p : StaId) (aid : ℕ) {status : ℕ} (h : status ≠ _STATS_SUCCESSFUL_) :
    assocGranted (some (.asocrsp p status aid)) = none := by
  simp [assocGranted, h]

/-- What `OnAssocReq` does to the table of stations. -/
inductive AssocOutcomeOf (a : RtwAdapter) (req : AssocReq) : Prop
  | nothing (stapriv : (onAssocReq a req).1.stapriv = a.stapriv) (joined : assocGranted (onAssocReq a req).2 = none)
  | rejects (p : StaId) (info : StaInfo) (mac : SameMac (a.staInfo p) info) (aid : info.aid = 0)
      (stapriv : (onAssocReq a req).1.stapriv = a.stapriv.setInfo p info)
      (joined : assocGranted (onAssocReq a req).2 = none)
  | accepts (p : StaId) (accepted : OdmAp.AssocAccepts a req p) (aid : ℕ)
      (joins : Joins a.stapriv (onAssocReq a req).1.stapriv p)
      (macId : ((onAssocReq a req).1.staInfo p).macId = aid + 1) (aid' : ((onAssocReq a req).1.staInfo p).aid = aid)
      (isAp : ((onAssocReq a req).1.staInfo p).isAp = (a.staInfo p).isAp)
      (which : (aid = (a.staInfo p).aid ∧ 0 < aid ∧ (onAssocReq a req).1.stapriv.staAid = a.stapriv.staAid) ∨
        ((a.staInfo p).aid = 0 ∧ aid = firstFreeAid a.stapriv ∧ (onAssocReq a req).1.stapriv.staAid =
          Function.update a.stapriv.staAid (StaPriv.aidSlot aid) (some p)))
      (joined : assocGranted (onAssocReq a req).2 = some p)

theorem onAssocReqFail_outcome (a : RtwAdapter) (req : AssocReq) (p : StaId) (info : StaInfo) {status : ℕ}
    (hreq : onAssocReq a req = onAssocReqFail a p info status) (hmac : SameMac (a.staInfo p) info)
    (hstatus : status ≠ _STATS_SUCCESSFUL_) : AssocOutcomeOf a req := by
  have hsp : (onAssocReq a req).1.stapriv = a.stapriv.setInfo p (info.setAid 0) := by
    rw [hreq]
    rfl
  refine .rejects p (info.setAid 0) (hmac.trans ⟨rfl, rfl⟩) rfl hsp ?_
  rw [hreq]
  exact assocGranted_reject p 0 hstatus

theorem assocAccept_outcome (a : RtwAdapter) (req : AssocReq) (p : StaId) (info : StaInfo)
    (hreq : onAssocReq a req = assocAccept a p info) (hmac : SameMac (a.staInfo p) info)
    (haid : info.aid = (a.staInfo p).aid)
    (hpasses : (0 < (a.staInfo p).aid ∨ firstFreeAid a.stapriv ≤ a.stapriv.maxNumSta) → OdmAp.AssocAccepts a req p) :
    AssocOutcomeOf a req := by
  have hself : (a.stapriv.setInfo p info).staInfo p = info := setInfo_self _ p info
  have hdone : ∀ sp : StaPriv, assocAid (a.setInfo p info).stapriv p = some sp →
      onAssocReq a req = (assocJoined (a.setStapriv (assocListed sp p)) p, some (.asocrsp p _STATS_SUCCESSFUL_
        ((assocJoined (a.setStapriv (assocListed sp p)) p).staInfo p).aid)) := by
    intro sp hsp
    rw [hreq]
    unfold assocAccept
    rw [hsp]
  -- the station has an identifier in the table `sp`, and the slots are these
  have hjoin : ∀ sp : StaPriv, assocAid (a.setInfo p info).stapriv p = some sp → Joins a.stapriv sp p →
      SameMac (a.staInfo p) (sp.staInfo p) →
      ((sp.staInfo p).aid = (a.staInfo p).aid ∧ 0 < (sp.staInfo p).aid ∧ sp.staAid = a.stapriv.staAid) ∨
        ((a.staInfo p).aid = 0 ∧ (sp.staInfo p).aid = firstFreeAid a.stapriv ∧ sp.staAid =
          Function.update a.stapriv.staAid (StaPriv.aidSlot (sp.staInfo p).aid) (some p)) →
      (0 < (a.staInfo p).aid ∨ firstFreeAid a.stapriv ≤ a.stapriv.maxNumSta) → AssocOutcomeOf a req := by
    intro sp hsp hjoins hsame hwhich hroom
    have e := hdone sp hsp
    obtain ⟨hlist, hlmac, hlaid, hlslot⟩ := assocListed_joins sp p
    obtain ⟨hjoin, hjmac, hjaid, hjap, hjslot⟩ := assocJoined_joins (a.setStapriv (assocListed sp p)) p
    have hinfo : (a.setStapriv (assocListed sp p)).staInfo p = (assocListed sp p).staInfo p := rfl
    rw [hinfo, hlaid] at hjmac hjaid
    rw [hinfo, hlmac.isAp, hsame.isAp] at hjap
    refine .accepts p (hpasses hroom) (sp.staInfo p).aid ?_ ?_ ?_ ?_ ?_ ?_
    · rw [e]
      exact (hjoins.trans hlist).trans hjoin
    · rw [e]
      exact hjmac
    · rw [e]
      exact hjaid
    · rw [e]
      exact hjap
    · have hslot : (onAssocReq a req).1.stapriv.staAid = sp.staAid := by
        rw [e]
        exact hjslot.trans hlslot
      rw [hslot]
      exact hwhich
    · rw [e]
      exact assocGranted_success p _
  have hset := Joins.setInfo a.stapriv p info
  by_cases hpos : 0 < info.aid
  · have hsp : assocAid (a.setInfo p info).stapriv p = some (a.stapriv.setInfo p info) := by
      show assocAid (a.stapriv.setInfo p info) p = _
      unfold assocAid
      rw [hself, if_pos hpos]
    refine hjoin _ hsp hset ?_ (.inl ⟨?_, ?_, rfl⟩) (.inl (haid ▸ hpos))
    · rw [hself]
      exact hmac
    · rw [hself]
      exact haid
    · rw [hself]
      exact hpos
  · by_cases hroom : a.stapriv.maxNumSta < firstFreeAid a.stapriv
    · have hnone : assocAid (a.setInfo p info).stapriv p = none := by
        show assocAid (a.stapriv.setInfo p info) p = _
        unfold assocAid
        rw [hself, if_neg hpos]
        exact if_pos hroom
      have e : onAssocReq a req = onAssocReqFail a p info WLAN_STATUS_AP_UNABLE_TO_HANDLE_NEW_STA := by
        rw [hreq]
        unfold assocAccept
        rw [hnone]
      exact onAssocReqFail_outcome a req p info e hmac (by decide)
    · have hsp : assocAid (a.setInfo p info).stapriv p = some (((a.stapriv.setInfo p info).setInfo p
          (info.setAid (firstFreeAid a.stapriv))).setSlot (firstFreeAid a.stapriv) (some p)) := by
        show assocAid (a.stapriv.setInfo p info) p = _
        unfold assocAid
        rw [hself, if_neg hpos]
        exact if_neg hroom
      have hnew : (((a.stapriv.setInfo p info).setInfo p (info.setAid (firstFreeAid a.stapriv))).setSlot
          (firstFreeAid a.stapriv) (some p)).staInfo p = info.setAid (firstFreeAid a.stapriv) := setInfo_self _ p _
      have hslot : Joins (a.stapriv.setInfo p info) (((a.stapriv.setInfo p info).setInfo p
          (info.setAid (firstFreeAid a.stapriv))).setSlot (firstFreeAid a.stapriv) (some p)) p :=
        (Joins.setInfo _ p _).trans ⟨fun _ _ => rfl, rfl, fun _ h => .inl h⟩
      refine hjoin _ hsp (hset.trans hslot) ?_ (.inr ⟨by omega, ?_, ?_⟩) (.inr (by omega))
      · rw [hnew]
        exact hmac.trans ⟨rfl, rfl⟩
      · rw [hnew]
        rfl
      · rw [hnew]
        rfl

theorem onAssocReq_outcome (a : RtwAdapter) (req : AssocReq) : AssocOutcomeOf a req := by
  by_cases hap : inApState a
  case neg =>
    have e : onAssocReq a req = (a, none) := if_pos hap
    exact .nothing (by rw [e]) (by rw [e]; rfl)
  by_cases hlen : req.pktLen < IEEE80211_3ADDR_LEN +
      (if req.reassoc then _REASOCREQ_IE_OFFSET_ else _ASOCREQ_IE_OFFSET_)
  · have e : onAssocReq a req = (a, none) := (if_neg (ap_gate hap)).trans (if_pos hlen)
    exact .nothing (by rw [e]) (by rw [e]; rfl)
  cases hfind : rtwGetStainfo a.stapriv (some req.addr2) with
  | none =>
    have e := onAssocReq_unknown hap hlen hfind
    exact .nothing (by rw [e]) (by rw [e]; rfl)
  | some p =>
    have e := onAssocReq_known hap hlen hfind
    unfold assocStation at e
    cases hgate : assocGate (a.staInfo p) with
    | none =>
      rw [hgate] at e
      exact .nothing (by rw [e]) (by rw [e]; rfl)
    | some pstat =>
      rw [hgate] at e
      dsimp only at e
      have hmac := (SameMac.assocGate hgate).trans (SameMac.assocChecks a req pstat)
      have haid := (Unjoined.assocChecks a req pstat).aid.trans (assocGate_authed hgate).2.2
      by_cases hstatus : (assocChecks a req pstat).2 = _STATS_SUCCESSFUL_
      · rw [if_pos hstatus] at e
        exact assocAccept_outcome a req p _ e hmac haid fun hroom =>
          ⟨hap, by omega, hfind, ⟨pstat, hgate, hstatus⟩, hroom⟩
      · rw [if_neg hstatus] at e
        exact onAssocReqFail_outcome a req p _ e hmac hstatus

end Rtl8723au
